import FunctionObjects.Proofs.Object.Definition

/-!
# Defining a property again

A request repeats a property if it says nothing about it but what is so: every part of it is left
out or agrees with the property (`Descriptor.Repeats`). A property permits to be repeated even where
it permits no change, because a value is always the same as itself, and it stays as it is, because
what the request leaves out is taken from it.

After a definition that has succeeded, the request repeats the property that it has made. So the
same request succeeds a second time and changes nothing.
-/

namespace FunctionObjects

/-- The request says nothing about a property but what is so. -/
structure Descriptor.Repeats (d : Descriptor) (p : Property) : Prop where
  value : ∀ v ∈ d.value, v = p.value
  writable : ∀ w ∈ d.writable, w = p.writable
  enumerable : ∀ e ∈ d.enumerable, e = p.enumerable
  configurable : ∀ c ∈ d.configurable, c = p.configurable

namespace Descriptor

variable {d : Descriptor} {p : Property}

/-- What is left out or agrees makes no difference. -/
theorem getD_of_forall_mem {α : Type} {x : Option α} {a : α} (h : ∀ b ∈ x, b = a) :
    x.getD a = a := by
  cases x with
  | none => rfl
  | some b => exact h b rfl

theorem Repeats.appliedTo (h : d.Repeats p) : d.appliedTo p = p := by
  rw [Descriptor.appliedTo, getD_of_forall_mem h.value, getD_of_forall_mem h.writable,
    getD_of_forall_mem h.enumerable, getD_of_forall_mem h.configurable]

/-- A property permits to be repeated, whatever else it permits. -/
theorem Repeats.permits (h : d.Repeats p) : p.permits d = true := by
  refine Property.permits_iff.2 fun hc => ⟨?_, h.enumerable, fun hw => ⟨?_, ?_⟩⟩
  · intro hd
    rw [← h.configurable true hd] at hc
    cases hc
  · intro hd
    rw [← h.writable true hd] at hw
    cases hw
  · intro v hv
    rw [h.value v hv]
    exact p.value.same_refl

/-- A request repeats the property that it makes where there was none. -/
theorem repeats_completed (d : Descriptor) : d.Repeats d.completed := by
  constructor <;> rintro x hx <;> rw [Option.mem_def] at hx <;> simp [completed, hx]

/-- A request repeats the property that it makes of another one. -/
theorem repeats_appliedTo (d : Descriptor) (p : Property) : d.Repeats (d.appliedTo p) := by
  constructor <;> rintro x hx <;> rw [Option.mem_def] at hx <;> simp [Descriptor.appliedTo, hx]

end Descriptor

namespace Object

variable {o o' : Object} {key : String} {d : Descriptor} {p : Property}

theorem store_of_own? (hp : o.own? key = some p) : o.store key p = o := by
  rw [store, OrderedMap.insert_of_get? hp]

theorem define_of_repeats (hp : o.own? key = some p) (hd : d.Repeats p) :
    o.define key d = .ok o := by
  rw [define, hp]
  simp only [hd.permits, if_true, hd.appliedTo, store_of_own? hp]

/-- A definition that succeeds has done what was asked for. -/
theorem exists_repeats_of_define (h : o.define key d = .ok o') :
    ∃ p, o'.own? key = some p ∧ d.Repeats p := by
  rcases define_cases h with ⟨-, -, rfl⟩ | ⟨p, -, -, rfl⟩
  · exact ⟨_, (own?_store o key key _).trans (if_pos rfl), d.repeats_completed⟩
  · exact ⟨_, (own?_store o key key _).trans (if_pos rfl), d.repeats_appliedTo p⟩

end Object

namespace Store

open Effect

/-- To repeat a property of an object is to do nothing. -/
theorem defineProperty_of_repeats {s : Store} {r : ObjectRef} {o : Object} {key : String}
    {d : Descriptor} {p : Property} (ho : s.object? r = some o) (hp : o.own? key = some p)
    (hd : d.Repeats p) : defineProperty r key d s = .ok () s := by
  rw [defineProperty_of_ok ho (Object.define_of_repeats hp hd), setObject_of_object? ho]

/-- **To define a property again does no harm.** If a definition succeeds, there is a property of
which the request says what is so, and the same request succeeds once more and changes nothing. A
request that says of a property only what is so, all of it, a part or nothing, always succeeds and
changes nothing, whatever the attributes of the property and of the object are. -/
theorem redefinition_harmless (s : Store) (r : ObjectRef) (key : String) (d : Descriptor) :
    (∀ s', defineProperty r key d s = .ok () s' →
        (∃ o p, s'.object? r = some o ∧ o.own? key = some p ∧ d.Repeats p) ∧
          defineProperty r key d s' = .ok () s') ∧
      ∀ o p, s.object? r = some o → o.own? key = some p → d.Repeats p →
        o.tryDefine key d = (true, o) ∧ defineProperty r key d s = .ok () s := by
  constructor
  · intro s' h
    obtain ⟨o, o', ho, hdefine, rfl⟩ := exists_define_of_ok h
    have ho' : (s.setObject r o').object? r = some o' := by
      rw [object?_setObject, if_pos rfl, ho]
      rfl
    obtain ⟨p, hp, hd⟩ := Object.exists_repeats_of_define hdefine
    exact ⟨⟨o', p, ho', hp, hd⟩, defineProperty_of_repeats ho' hp hd⟩
  · intro o p ho hp hd
    exact ⟨Object.tryDefine_of_ok (Object.define_of_repeats hp hd),
      defineProperty_of_repeats ho hp hd⟩

/-- An object with a NaN and a negative zero that can neither be written nor configured. -/
def frozenNumbers : List Operation :=
  [.newLoose {},
    .defineProperty (.loose 0) "nan" { value := some (.number (.ofNatBits 0xfff8000000000001)) },
    .defineProperty (.loose 0) "zero" { value := some (.number (.ofNatBits 0x8000000000000000)) },
    .setExtensible (.loose 0) false]

/-- Both can be given the value that they have, and a new property can be defined twice as long as
the object is extensible. -/
theorem redefinition_harmless_frozen :
    let s := Operation.performAll {} frozenNumbers
    let opened := (Operation.setExtensible (.loose 0) true).perform s
    let r : ObjectRef := .loose 0
    let nan : Value := .number (.ofNatBits 0xfff8000000000001)
    let negativeZero : Value := .number (.ofNatBits 0x8000000000000000)
    s.Reachable ∧
      (∃ o, s.object? r = some o ∧ o.extensible = false ∧
        o.own? "nan" = some ⟨nan, false, false, false⟩ ∧
        o.own? "zero" = some ⟨negativeZero, false, false, false⟩) ∧
      defineProperty r "nan" { value := some nan } s = .ok () s ∧
      defineProperty r "zero" (.data negativeZero false false false) s = .ok () s ∧
      defineProperty r "zero" {} s = .ok () s ∧
      ∃ s', defineProperty r "new" { writable := some true } opened = .ok () s' ∧
        defineProperty r "new" { writable := some true } s' = .ok () s' := by
  intro s opened r nan negativeZero
  have hread : (s.object? r).map (fun o => (o.extensible, o.own? "nan", o.own? "zero")) =
      some (false, some ⟨nan, false, false, false⟩, some ⟨negativeZero, false, false, false⟩) := by
    decide +kernel
  obtain ⟨o, ho, hfields⟩ := Option.map_eq_some_iff.1 hread
  simp only [Prod.mk.injEq] at hfields
  obtain ⟨hx, hnan, hzero⟩ := hfields
  have hall : (Descriptor.data negativeZero false false false).Repeats
      ⟨negativeZero, false, false, false⟩ := by
    constructor <;> rintro _ ⟨⟩ <;> rfl
  have hvalue : Descriptor.Repeats { value := some nan } ⟨nan, false, false, false⟩ := by
    constructor <;> rintro _ ⟨⟩
    rfl
  have hnothing : Descriptor.Repeats {} ⟨negativeZero, false, false, false⟩ := by
    constructor <;> rintro _ ⟨⟩
  refine ⟨Reachable.performAll (by decide +kernel), ⟨o, ho, hx, hnan, hzero⟩, ?_, ?_, ?_, ?_⟩
  · exact ((redefinition_harmless s r "nan" _).2 o _ ho hnan hvalue).2
  · exact ((redefinition_harmless s r "zero" _).2 o _ ho hzero hall).2
  · exact ((redefinition_harmless s r "zero" _).2 o _ ho hzero hnothing).2
  · have hopened : (opened.object? r).map (fun o => (o.extensible, o.ownKeys)) =
        some (true, ["nan", "zero"]) := by
      decide +kernel
    obtain ⟨o', ho', hfields'⟩ := Option.map_eq_some_iff.1 hopened
    simp only [Prod.mk.injEq] at hfields'
    obtain ⟨hx', hkeys'⟩ := hfields'
    have hfirst := defineProperty_of_ok ho'
      (Object.define_of_not_mem { writable := some true } hx' (hkeys' ▸ by decide : "new" ∉ _))
    exact ⟨_, hfirst, ((redefinition_harmless opened r "new" _).1 _ hfirst).2⟩

end Store

end FunctionObjects
