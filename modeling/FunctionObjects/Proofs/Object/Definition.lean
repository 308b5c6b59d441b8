import FunctionObjects.Proofs.Object.Integrity

/-!
# The rule for the definition of a property

The standard of the language says in words which requests to define a property are accepted and
what becomes of the property (`ValidateAndApplyPropertyDescriptor`). Here is what it says about
properties that hold a value, as a relation between an object, a request and the result,
`Object.Defines`. There is one case for each way in which it can come out. `Object.define` computes
this relation (`define_eq_iff`), so it has exactly one result for every object and every request.
-/

namespace FunctionObjects

/-! ### The rule -/

/-- When the language takes two values to be the same. All NaNs are one number, the two zeros are
two, and the description of a symbol does not count. -/
inductive Value.IsSame : Value → Value → Prop
  | refl (v : Value) : IsSame v v
  | nan {x y : Double} : x.isNaN = true → y.isNaN = true → IsSame (.number x) (.number y)
  | symbol {a b : Symbol} : a.id = b.id → IsSame (.symbol a) (.symbol b)

theorem Value.same_iff_isSame {v w : Value} : v.same w = true ↔ v.IsSame w := by
  constructor
  · intro h
    cases v with
    | number x =>
      cases w with
      | number y =>
        rcases Double.same_iff.1 h with ⟨hx, hy⟩ | rfl
        · exact .nan hx hy
        · exact .refl _
      | _ => cases h
    | symbol a =>
      cases w with
      | symbol b => exact .symbol (beq_iff_eq.1 h)
      | _ => cases h
    | undefined | null | boolean | string | object =>
      cases w <;> simp only [same, beq_iff_eq, Bool.false_eq_true] at h
      all_goals first | exact .refl _ | (subst h; exact .refl _)
  · rintro (_ | ⟨hx, hy⟩ | hid)
    · exact same_refl v
    · exact Double.same_iff.2 (.inl ⟨hx, hy⟩)
    · exact beq_iff_eq.2 hid

/-- What a property that exists does not allow. As long as it is configurable this is nothing; after
that, to make it configurable or to change whether it is enumerable, and if it is not writable
either, to make it so or to give it another value. -/
def Property.Refuses (current : Property) (d : Descriptor) : Prop :=
  current.configurable = false ∧
    (d.configurable = some true ∨ (∃ e, d.enumerable = some e ∧ e ≠ current.enumerable) ∨
      current.writable = false ∧
        (d.writable = some true ∨ ∃ v, d.value = some v ∧ ¬ v.IsSame current.value))

/-- The results of a request to define a property of an object. -/
inductive Object.Defines (o : Object) (key : String) (d : Descriptor) :
    Except ObjectError Object → Prop
  /-- An object that is not extensible gets no new property. -/
  | notExtensible : key ∉ o.ownKeys → o.extensible = false → Defines o key d
      (.error (.notExtensible key))
  /-- A new property comes last. What the request leaves out is `undefined` and `false`. -/
  | added : key ∉ o.ownKeys → o.extensible = true → Defines o key d
      (.ok { o with
        properties := ⟨o.properties.entries ++ [(key,
          { value := d.value.getD .undefined
            writable := d.writable.getD false
            enumerable := d.enumerable.getD false
            configurable := d.configurable.getD false })]⟩ })
  /-- The property that there is does not allow it. -/
  | nonConfigurable (before : List (String × Property)) (current : Property)
      (after : List (String × Property)) :
      o.properties.entries = before ++ (key, current) :: after → key ∉ before.map Prod.fst →
      current.Refuses d → Defines o key d (.error (.nonConfigurable key))
  /-- The property stays in its place. What the request leaves out is as it was. -/
  | changed (before : List (String × Property)) (current : Property)
      (after : List (String × Property)) :
      o.properties.entries = before ++ (key, current) :: after → key ∉ before.map Prod.fst →
      ¬ current.Refuses d → Defines o key d
      (.ok { o with
        properties := ⟨before ++ (key,
          { value := d.value.getD current.value
            writable := d.writable.getD current.writable
            enumerable := d.enumerable.getD current.enumerable
            configurable := d.configurable.getD current.configurable }) :: after⟩ })

/-! ### The check agrees with the rule -/

theorem Property.permits_iff_not_refuses {p : Property} {d : Descriptor} :
    p.permits d = true ↔ ¬ p.Refuses d := by
  rw [permits_iff, Refuses]
  simp only [not_and, not_or, not_exists, not_not, Value.same_iff_isSame, Option.mem_def]

namespace Object

variable {o o' : Object} {key : String} {d : Descriptor}

theorem own?_eq_none_iff : o.own? key = none ↔ key ∉ o.ownKeys := by
  rw [← Option.not_isSome_iff_eq_none]
  exact not_congr OrderedMap.mem_keys_iff.symm

theorem define_of_not_extensible (hkey : key ∉ o.ownKeys) (hx : o.extensible = false) :
    o.define key d = .error (.notExtensible key) := by
  rw [define, own?_eq_none_iff.2 hkey]
  simp only [hx, Bool.false_eq_true, if_false]

section

variable {before after : List (String × Property)} {current : Property}
  (hsplit : o.properties.entries = before ++ (key, current) :: after)
  (hkey : key ∉ before.map Prod.fst)
include hsplit hkey

theorem own?_of_split : o.own? key = some current := by
  have hget : OrderedMap.get? ⟨before ++ (key, current) :: after⟩ key = some current :=
    OrderedMap.get?_of_split hkey
  rwa [← hsplit] at hget

theorem define_of_refuses (hr : current.Refuses d) :
    o.define key d = .error (.nonConfigurable key) := by
  have hpermits : ¬ current.permits d = true := fun h => Property.permits_iff_not_refuses.1 h hr
  rw [define, own?_of_split hsplit hkey]
  exact if_neg hpermits

theorem define_of_not_refuses (hr : ¬ current.Refuses d) :
    o.define key d =
      .ok { o with properties := ⟨before ++ (key, d.appliedTo current) :: after⟩ } := by
  have hinsert : o.properties.insert key (d.appliedTo current) =
      ⟨before ++ (key, d.appliedTo current) :: after⟩ := by
    rw [← OrderedMap.insert_of_split hkey, ← hsplit]
  rw [define, own?_of_split hsplit hkey, ← hinsert]
  exact if_pos (Property.permits_iff_not_refuses.2 hr)

end

/-- To define a property is to follow the rule. -/
theorem define_eq_iff {result : Except ObjectError Object} :
    o.define key d = result ↔ o.Defines key d result := by
  constructor
  · rintro rfl
    cases hown : o.own? key with
    | none =>
      have hkey := own?_eq_none_iff.1 hown
      cases hx : o.extensible with
      | false =>
        rw [define_of_not_extensible hkey hx]
        exact .notExtensible hkey hx
      | true =>
        rw [define_of_not_mem d hx hkey]
        exact .added hkey hx
    | some current =>
      obtain ⟨before, after, hsplit, hkey⟩ := OrderedMap.exists_split hown
      by_cases hr : current.Refuses d
      · rw [define_of_refuses hsplit hkey hr]
        exact .nonConfigurable before current after hsplit hkey hr
      · rw [define_of_not_refuses hsplit hkey hr]
        exact .changed before current after hsplit hkey hr
  · intro h
    cases h with
    | notExtensible hkey hx => exact define_of_not_extensible hkey hx
    | added hkey hx => exact define_of_not_mem d hx hkey
    | nonConfigurable before current after hsplit hkey hr =>
      exact define_of_refuses hsplit hkey hr
    | changed before current after hsplit hkey hr => exact define_of_not_refuses hsplit hkey hr

/-- A definition touches no property under another key, and moves none. -/
theorem Defines.getElem?_entries (h : o.Defines key d (.ok o')) {i : Nat} {other : String}
    {p : Property} (hne : other ≠ key) :
    o'.properties.entries[i]? = some (other, p) ↔ o.properties.entries[i]? = some (other, p) := by
  cases h with
  | added hkey hx =>
    rw [List.getElem?_append]
    split
    · rfl
    · next hi =>
      rw [List.getElem?_eq_none (Nat.le_of_not_lt hi)]
      cases i - o.properties.entries.length <;> simp [Ne.symm hne]
  | changed before current after hsplit hkey hr =>
    rw [hsplit, List.getElem?_append, List.getElem?_append]
    split
    · rfl
    · cases i - before.length <;> simp [Ne.symm hne]

theorem tryDefine_of_ok (h : o.define key d = .ok o') : o.tryDefine key d = (true, o') := by
  rw [tryDefine, h]

theorem tryDefine_of_error {e : ObjectError} (h : o.define key d = .error e) :
    o.tryDefine key d = (false, o) := by
  rw [tryDefine, h]

end Object

/-! ### The definition in the store -/

namespace Effect

variable {s : Store} {r : ObjectRef} {o o' : Object} {key : String} {d : Descriptor}

theorem defineProperty_of_ok (ho : s.object? r = some o) (h : o.define key d = .ok o') :
    defineProperty r key d s = .ok () (s.setObject r o') := by
  simp only [defineProperty, updateObject, replaceObject, ho, h]

/-- What is refused changes nothing. -/
theorem defineProperty_of_error {e : ObjectError} (ho : s.object? r = some o)
    (h : o.define key d = .error e) : defineProperty r key d s = .error (.refused e) s := by
  simp only [defineProperty, updateObject, replaceObject, ho, h]

/-- What succeeds was accepted by the object, and has put what became of it in its place. -/
theorem exists_define_of_ok {s' : Store} (h : defineProperty r key d s = .ok () s') :
    ∃ o o', s.object? r = some o ∧ o.define key d = .ok o' ∧ s' = s.setObject r o' := by
  cases ho : s.object? r with
  | none =>
    simp only [defineProperty, updateObject, replaceObject, ho] at h
    cases h
  | some o =>
    cases hd : o.define key d with
    | error e => cases (defineProperty_of_error ho hd).symm.trans h
    | ok o' =>
      cases (defineProperty_of_ok ho hd).symm.trans h
      exact ⟨o, o', rfl, hd, rfl⟩

end Effect

namespace Store

variable {s : Store} {r : ObjectRef} {o : Object}

/-- **Properties are defined by the rule of the standard.** A request has the result that the rule
says, and no other. If it is refused, everything is as it was. If it is accepted, the object is in
its place as the rule says, properties under other keys are what and where they were, and all other
objects are the same. Whoever asks only whether it succeeds gets this answer, and the same object.
-/
theorem define_by_rule (ho : s.object? r = some o) (key : String) (d : Descriptor) :
    (∀ result, o.define key d = result ↔ o.Defines key d result) ∧
      (∀ e, o.define key d = .error e →
        Effect.defineProperty r key d s = .error (.refused e) s ∧
          o.tryDefine key d = (false, o)) ∧
      ∀ o', o.define key d = .ok o' →
        Effect.defineProperty r key d s = .ok () (s.setObject r o') ∧
          (∀ r', (s.setObject r o').object? r' = if r' = r then some o' else s.object? r') ∧
          (∀ (i : Nat) other p, other ≠ key → (o'.properties.entries[i]? = some (other, p) ↔
            o.properties.entries[i]? = some (other, p))) ∧
          o.tryDefine key d = (true, o') := by
  refine ⟨fun result => Object.define_eq_iff, fun e he => ?_, fun o' ho' => ?_⟩
  · exact ⟨Effect.defineProperty_of_error ho he, Object.tryDefine_of_error he⟩
  · refine ⟨Effect.defineProperty_of_ok ho ho', fun r' => ?_, fun i other p hne => ?_,
      Object.tryDefine_of_ok ho'⟩
    · rw [object?_setObject, ho]
      rfl
    · exact (Object.define_eq_iff.1 ho').getElem?_entries hne

/-- A property that can neither be written nor configured still allows a NaN to be replaced by
another, as that is the same number, but not a zero by the other one. -/
theorem define_by_rule_numbers :
    let nan (n : Nat) := Value.number (.ofNatBits (0x7ff8000000000000 + n))
    let zero := Value.number (.ofNatBits 0)
    let negativeZero := Value.number (.ofNatBits 0x8000000000000000)
    let p : Property := ⟨nan 0, false, true, false⟩
    let q : Property := ⟨zero, false, false, false⟩
    let s := pushLoose {} { properties := ⟨[("a", p), ("b", q)]⟩ }
    (∃ s', Effect.defineProperty (.loose 0) "a" { value := some (nan 1) } s = .ok () s' ∧
        (s'.object? (.loose 0)).map (fun o => o.properties.entries) =
          some [("a", { p with value := nan 1 }), ("b", q)]) ∧
      Effect.defineProperty (.loose 0) "b" { value := some negativeZero } s =
        .error (.refused (.nonConfigurable "b")) s := by
  intro nan zero negativeZero p q s
  have ho : s.object? (.loose 0) = some { properties := ⟨[("a", p), ("b", q)]⟩ } := rfl
  have hp : ¬ p.Refuses { value := some (nan 1) } := by
    rintro ⟨-, hc | ⟨e, he, -⟩ | ⟨-, hw | ⟨v, hv, hne⟩⟩⟩
    · cases hc
    · cases he
    · cases hw
    · cases hv
      exact hne (.nan (by decide) (by decide))
  have hzeros : ¬ negativeZero.IsSame zero := fun h =>
    absurd (Value.same_iff_isSame.2 h) (by decide)
  have hq : q.Refuses { value := some negativeZero } :=
    ⟨rfl, .inr (.inr ⟨rfl, .inr ⟨_, rfl, hzeros⟩⟩)⟩
  obtain ⟨hrule, -, haccepted⟩ := define_by_rule ho "a" { value := some (nan 1) }
  obtain ⟨hrule', hrefused, -⟩ := define_by_rule ho "b" { value := some negativeZero }
  obtain ⟨hdefine, hread, -⟩ := haccepted _ ((hrule _).2 (.changed [] p _ rfl (by simp) hp))
  refine ⟨⟨_, hdefine, ?_⟩, ?_⟩
  · rw [hread]
    rfl
  · exact (hrefused _ ((hrule' _).2 (.nonConfigurable [("a", p)] q [] rfl (by simp) hq))).1

end Store

end FunctionObjects
