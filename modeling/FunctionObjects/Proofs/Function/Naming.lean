import FunctionObjects.Proofs.Object.Definition

/-!
# Naming and sizing a function

A function says its name and its length in two properties, which are not writable, not enumerable
and configurable. To give a function a name or a length is to define one of them, and as the request
asks for a configurable property, it is refused in two cases only: the function has the property and
it is not configurable, or it does not have it and is not extensible. The value is never looked at
(`Store.Describes`). What the value is for a name is said unit by unit (`FunctionName.Spelled`).
-/

namespace FunctionObjects

/-! ### What a name is spelled like -/

/-- The units of a name. A symbol is spelled by its description between `[` and `]`, or not at all,
and a private name by `#` and its description. -/
inductive FunctionName.Spelled : FunctionName → List UInt16 → Prop
  | string (s : CodeUnits) : Spelled (.string s) s.units
  | described (id : Nat) (description : CodeUnits) :
      Spelled (.symbol ⟨id, some description⟩) (0x5B :: description.units ++ [0x5D])
  | undescribed (id : Nat) : Spelled (.symbol ⟨id, none⟩) []
  | privateName (id : Nat) (description : String) :
      Spelled (.privateName ⟨id, description⟩) (0x23 :: Utf16.encode description.toList)

/-- The units before a name: the word that leads it, if there is one, and a space. -/
def leadUnits : Option String → List UInt16
  | some word => Utf16.encode word.toList ++ [0x20]
  | none => []

namespace FunctionName

theorem exists_spelled (name : FunctionName) : ∃ units, name.Spelled units := by
  cases name with
  | string s => exact ⟨_, .string s⟩
  | symbol s =>
    obtain ⟨id, description⟩ := s
    cases description with
    | some description => exact ⟨_, .described id description⟩
    | none => exact ⟨_, .undescribed id⟩
  | privateName name => exact ⟨_, .privateName name.id name.description⟩

theorem Spelled.units_eq {name : FunctionName} {units : List UInt16} (h : name.Spelled units) :
    name.units = ⟨units⟩ := by
  cases h with
  | string | undescribed | described => rfl
  | privateName id description =>
    have hencode : Utf16.encode ("#" ++ description).toList =
        0x23 :: Utf16.encode description.toList := by
      rw [String.toList_append, Utf16.encode_append]
      rfl
    exact congrArg CodeUnits.mk hencode

end FunctionName

/-! ### What becomes of the function -/

/-- The property in which a function says something about itself. -/
def Property.descriptive (v : Value) : Property := ⟨v, false, false, true⟩

/-- Only a property that is not configurable refuses to become descriptive. -/
theorem Property.refuses_descriptive_iff {p : Property} {v : Value} :
    p.Refuses (Property.descriptive v).toDescriptor ↔ p.configurable = false := by
  simp [Refuses, toDescriptor, descriptive]

/-- The results of giving a function a property in which it says something about itself. -/
inductive Store.Describes (s : Store) (r : ObjectRef) (o : Object) (key : String) (v : Value) :
    EStateM.Result Error Store Unit → Prop
  /-- The function does not have the property and can be given none. -/
  | notExtensible : key ∉ o.ownKeys → o.extensible = false → Describes s r o key v
      (.error (.refused (.notExtensible key)) s)
  /-- The function has the property and it is not configurable, whatever its value is. -/
  | nonConfigurable (p : Property) : o.own? key = some p → p.configurable = false →
      Describes s r o key v (.error (.refused (.nonConfigurable key)) s)
  /-- A new property comes last. -/
  | added : key ∉ o.ownKeys → o.extensible = true → Describes s r o key v
      (.ok () (s.setObject r { o with
        properties := ⟨o.properties.entries ++ [(key, .descriptive v)]⟩ }))
  /-- A property that the function has stays in its place. -/
  | replaced (before : List (String × Property)) (p : Property)
      (after : List (String × Property)) :
      o.properties.entries = before ++ (key, p) :: after → key ∉ before.map Prod.fst →
      p.configurable = true → Describes s r o key v
      (.ok () (s.setObject r { o with
        properties := ⟨before ++ (key, .descriptive v) :: after⟩ }))

namespace Store

open Effect

variable {s s' : Store} {r : ObjectRef} {o : Object} {key : String} {v : Value}
  {result : EStateM.Result Error Store Unit}

/-- Whatever the object is like, one of the results is the case. -/
theorem exists_describes (s : Store) (r : ObjectRef) (o : Object) (key : String) (v : Value) :
    ∃ result, s.Describes r o key v result := by
  cases hown : o.own? key with
  | none =>
    have hkey := Object.own?_eq_none_iff.1 hown
    cases hx : o.extensible with
    | false => exact ⟨_, .notExtensible hkey hx⟩
    | true => exact ⟨_, .added hkey hx⟩
  | some p =>
    cases hc : p.configurable with
    | false => exact ⟨_, .nonConfigurable p hown hc⟩
    | true =>
      obtain ⟨before, after, hsplit, hkey⟩ := OrderedMap.exists_split hown
      exact ⟨_, .replaced before p after hsplit hkey hc⟩

theorem Describes.defineProperty_eq (ho : s.object? r = some o)
    (h : s.Describes r o key v result) :
    defineProperty r key (Property.descriptive v).toDescriptor s = result := by
  cases h with
  | notExtensible hkey hx =>
    exact defineProperty_of_error ho (Object.define_of_not_extensible hkey hx)
  | nonConfigurable p hp hc =>
    obtain ⟨before, after, hsplit, hkey⟩ := OrderedMap.exists_split hp
    exact defineProperty_of_error ho
      (Object.define_of_refuses hsplit hkey (Property.refuses_descriptive_iff.2 hc))
  | added hkey hx => exact defineProperty_of_ok ho (Object.define_of_not_mem _ hx hkey)
  | replaced before p after hsplit hkey hc =>
    have hallowed : ¬ p.Refuses (Property.descriptive v).toDescriptor := by
      rw [Property.refuses_descriptive_iff, hc]
      exact Bool.true_eq_false.mp
    exact defineProperty_of_ok ho (Object.define_of_not_refuses hsplit hkey hallowed)

theorem defineProperty_eq_iff_describes (ho : s.object? r = some o) :
    defineProperty r key (Property.descriptive v).toDescriptor s = result ↔
      s.Describes r o key v result :=
  eq_iff_of_rule (s.exists_describes r o key v) (fun _ => Describes.defineProperty_eq ho) result

/-- What is read after a success: the value in its property, and everything else as before. -/
structure OnlyDescribed (s s' : Store) (r : ObjectRef) (o o' : Object) (key : String) (v : Value) :
    Prop where
  object : s'.object? r = some o'
  property : o'.own? key = some (.descriptive v)
  properties : ∀ other, other ≠ key → o'.own? other = o.own? other
  rest : o' = { o with properties := o'.properties }
  others : ∀ r', r' ≠ r → s'.object? r' = s.object? r'

theorem exists_onlyDescribed (ho : s.object? r = some o)
    (h : defineProperty r key (Property.descriptive v).toDescriptor s = .ok () s') :
    ∃ o', OnlyDescribed s s' r o o' key v := by
  obtain ⟨x, o', hx, hdefine, rfl⟩ := exists_define_of_ok h
  obtain rfl : o = x := Option.some.inj (ho.symm.trans hx)
  obtain rfl : o' = o.store key (.descriptive v) := by
    rcases Object.define_cases hdefine with ⟨-, -, rfl⟩ | ⟨p, -, -, rfl⟩ <;> rfl
  refine ⟨o.store key (.descriptive v), ?_, ?_, fun other hne => ?_, rfl, fun r' hr' => ?_⟩
  · rw [object?_setObject, if_pos rfl, ho]
    rfl
  · rw [Object.own?_store, if_pos rfl]
  · rw [Object.own?_store, if_neg hne]
  · rw [object?_setObject, if_neg hr']

theorem OnlyDescribed.ownValue?_eq {o' : Object} (h : OnlyDescribed s s' r o o' key v) :
    o'.ownValue? key = some v := by
  rw [Object.ownValue?, h.property]
  rfl

end Store

namespace Closure

open Store

variable {s s' : Store} {c : Closure} {o : Object}

theorem setName_eq_of_spelled {name : FunctionName} {units : List UInt16}
    (h : name.Spelled units) (lead : Option String) :
    c.setName name lead = Effect.defineProperty c.ref "name"
      (Property.descriptive (.string ⟨leadUnits lead ++ units⟩)).toDescriptor := by
  have hlead : ∀ word, CodeUnits.ofString (word ++ " ") = ⟨leadUnits (some word)⟩ := by
    intro word
    rw [CodeUnits.ofString, String.toList_append, Utf16.encode_append]
    rfl
  unfold setName
  rw [h.units_eq]
  cases lead with
  | none => rfl
  | some word =>
    dsimp only
    rw [hlead]
    rfl

/-- **A function is named and sized unless it keeps what it has.** To give a function a name has the
result that the list says for its property `name`, and no other, and after a success its name is,
unit by unit, the leading word and a space and then what the name is spelled like. To give it a
length has the result that the list says for its property `length`. Where this fails nothing is
changed, and where it succeeds nothing but that property. -/
theorem named_and_sized (ho : s.object? c.ref = some o) :
    (∀ name lead, ∃ units, name.Spelled units ∧
        (∀ result, c.setName name lead s = result ↔
          s.Describes c.ref o "name" (.string ⟨leadUnits lead ++ units⟩) result) ∧
        ∀ s', c.setName name lead s = .ok () s' →
          ∃ o', OnlyDescribed s s' c.ref o o' "name" (.string ⟨leadUnits lead ++ units⟩) ∧
            o'.functionName.units = leadUnits lead ++ units) ∧
      ∀ length,
        (∀ result, c.setLength length s = result ↔
          s.Describes c.ref o "length" (.number (.ofNat length)) result) ∧
        ∀ s', c.setLength length s = .ok () s' →
          ∃ o', OnlyDescribed s s' c.ref o o' "length" (.number (.ofNat length)) ∧
            o'.functionLength = .ofNat length := by
  constructor
  · intro name lead
    obtain ⟨units, hunits⟩ := name.exists_spelled
    rw [setName_eq_of_spelled hunits lead]
    refine ⟨units, hunits, fun result => defineProperty_eq_iff_describes ho, fun s' h => ?_⟩
    obtain ⟨o', ho'⟩ := exists_onlyDescribed ho h
    refine ⟨o', ho', ?_⟩
    show (((o'.ownValue? "name").bind Value.string?).getD {}).units = _
    rw [ho'.ownValue?_eq]
    rfl
  · intro length
    refine ⟨fun result => defineProperty_eq_iff_describes ho, fun s' h => ?_⟩
    have honly : ∃ o', OnlyDescribed s s' c.ref o o' "length" (.number (.ofNat length)) :=
      exists_onlyDescribed ho h
    obtain ⟨o', ho'⟩ := honly
    refine ⟨o', ho', ?_⟩
    show ((o'.ownValue? "length").bind Value.number?).getD Double.zero = _
    rw [ho'.ownValue?_eq]
    rfl

/-- A function that has a length and no name. -/
def namelessFunction : List Operation :=
  [.newHeap, .createObject 0 none, .newScope none,
    .createFunction 0 0 (.ofParts 0 none [] [] .ordinary) .global ⟨0⟩ none default]

/-- The function is named after a symbol whose description begins with half a character. With a name
that is not configurable it does not even take the same name again, and when it is not extensible it
takes no name any more, but still a length. -/
theorem named_and_sized_nameless :
    let s := Operation.performAll {} namelessFunction
    let c : Closure := ⟨1, .allocated 0 1, ⟨0⟩⟩
    let half : FunctionName := .symbol ⟨0, some ⟨[0xDC00, 0x61]⟩⟩
    let f : CodeUnits := .ofString "f"
    let fixed : Descriptor := .data (.string f) false false false
    let named := (Operation.defineProperty c.ref "name" fixed).perform s
    let closed := (Operation.setExtensible c.ref false).perform s
    s.Reachable ∧
      (∃ s' o', c.setName half (some "get") s = .ok () s' ∧ s'.object? c.ref = some o' ∧
        o'.functionName.units = [0x67, 0x65, 0x74, 0x20, 0x5B, 0xDC00, 0x61, 0x5D]) ∧
      c.setName (.string f) none named = .error (.refused (.nonConfigurable "name")) named ∧
      c.setName half (some "get") closed = .error (.refused (.notExtensible "name")) closed ∧
      ∃ s', c.setLength 5 closed = .ok () s' := by
  intro s c half f fixed named closed
  have hread : ∀ t : Store, ∀ p q x,
      (t.object? c.ref).map (fun o => (o.own? "name", o.own? "length", o.extensible)) =
        some (p, q, x) →
        ∃ o, t.object? c.ref = some o ∧ o.own? "name" = p ∧ o.own? "length" = q ∧
          o.extensible = x := by
    intro t p q x h
    obtain ⟨o, ho, hfields⟩ := Option.map_eq_some_iff.1 h
    simp only [Prod.mk.injEq] at hfields
    exact ⟨o, ho, hfields⟩
  let length : Property := .descriptive (.number (.ofNat 0))
  obtain ⟨o, ho, hname, -, hx⟩ := hread s none (some length) true (by decide +kernel)
  obtain ⟨o₁, ho₁, hname₁, -, -⟩ :=
    hread named (some ⟨.string f, false, false, false⟩) (some length) true (by decide +kernel)
  obtain ⟨o₂, ho₂, hname₂, hlength₂, hx₂⟩ :=
    hread closed none (some length) false (by decide +kernel)
  obtain ⟨units, hspelled, hiff, hafter⟩ :=
    (named_and_sized ho).1 (.symbol ⟨0, some ⟨[0xDC00, 0x61]⟩⟩) (some "get")
  cases hspelled
  obtain ⟨_, -, hiff₁, -⟩ := (named_and_sized ho₁).1 (.string f) none
  obtain ⟨_, -, hiff₂, -⟩ := (named_and_sized ho₂).1 half (some "get")
  obtain ⟨before, after, hsplit, hkey⟩ := OrderedMap.exists_split hlength₂
  have hsized := (((named_and_sized ho₂).2 5).1 _).2
    (.replaced before length after hsplit hkey rfl)
  have hrun := (hiff _).2 (.added (Object.own?_eq_none_iff.1 hname) hx)
  obtain ⟨o', ho', hunits⟩ := hafter _ hrun
  refine ⟨Reachable.performAll (by decide +kernel), ⟨_, o', hrun, ho'.object, ?_⟩,
    (hiff₁ _).2 (.nonConfigurable _ hname₁ rfl),
    (hiff₂ _).2 (.notExtensible (Object.own?_eq_none_iff.1 hname₂) hx₂), ⟨_, hsized⟩⟩
  rw [hunits]
  decide +kernel

end Closure

end FunctionObjects
