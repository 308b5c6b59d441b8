import FunctionObjects.Proofs.Store.Reachable
import FunctionObjects.Proofs.Value.Same

/-!
# The integrity of properties

A request to define a property leaves out what it does not care about, and it is checked against the
property that is there. What the check lets pass is one relation between the property before and the
property after, `Property.Evolves`: a property that is not configurable stays so, and if it is not
writable either it keeps its value. The relation is transitive, so it holds between an object and
what has become of it after any number of operations, and so do the facts about keys in
`Object.Evolves`.

An object that is not extensible keeps its keys and its prototype as long as this is so. The one
operation that could make it extensible again touches neither.
-/

namespace FunctionObjects

/-! ### Properties -/

/-- A property that is not configurable permits a request only if this leaves it not configurable
and leaves its attribute `enumerable`, and where it is not writable either, its value too. -/
theorem Property.permits_iff {p : Property} {d : Descriptor} :
    p.permits d = true ↔ (p.configurable = false →
      d.configurable ≠ some true ∧ (∀ e ∈ d.enumerable, e = p.enumerable) ∧
        (p.writable = false → d.writable ≠ some true ∧ ∀ v ∈ d.value, v.same p.value = true)) := by
  simp only [permits, keepsValue, Bool.or_eq_true, Bool.and_eq_true, bne_iff_ne,
    Option.all_eq_true, beq_iff_eq]
  cases p.configurable <;> cases p.writable <;> simp [and_assoc]

/-- What may become of a property. -/
structure Property.Evolves (p p' : Property) : Prop where
  configurable : p.configurable = false → p'.configurable = false
  enumerable : p.configurable = false → p'.enumerable = p.enumerable
  writable : p.configurable = false → p.writable = false → p'.writable = false
  value : p.configurable = false → p.writable = false → p'.value.same p.value = true

namespace Property.Evolves

variable {p p' p'' : Property}

theorem refl (p : Property) : Evolves p p :=
  ⟨id, fun _ => rfl, fun _ => id, fun _ _ => p.value.same_refl⟩

theorem trans (h : Evolves p p') (h' : Evolves p' p'') : Evolves p p'' where
  configurable hc := h'.configurable (h.configurable hc)
  enumerable hc := (h'.enumerable (h.configurable hc)).trans (h.enumerable hc)
  writable hc hw := h'.writable (h.configurable hc) (h.writable hc hw)
  value hc hw :=
    Value.same_trans (h'.value (h.configurable hc) (h.writable hc hw)) (h.value hc hw)

/-- A request that is permitted makes of the property what may become of it. -/
theorem of_permits {d : Descriptor} (h : p.permits d = true) : Evolves p (d.appliedTo p) := by
  have hcheck := permits_iff.1 h
  obtain ⟨v, w, e, c⟩ := d
  -- what the request leaves out is as before, and the rest has been checked
  constructor
  case configurable =>
    intro hc
    have hc' : c ≠ some true := (hcheck hc).1
    cases c with
    | none => exact hc
    | some c => simpa [Descriptor.appliedTo] using hc'
  case enumerable =>
    intro hc
    have he : ∀ x ∈ e, x = p.enumerable := (hcheck hc).2.1
    cases e with
    | none => rfl
    | some e => exact he e rfl
  case writable =>
    intro hc hw
    have hw' : w ≠ some true := ((hcheck hc).2.2 hw).1
    cases w with
    | none => exact hw
    | some w => simpa [Descriptor.appliedTo] using hw'
  case value =>
    intro hc hw
    have hv : ∀ x ∈ v, x.same p.value = true := ((hcheck hc).2.2 hw).2
    cases v with
    | none => exact p.value.same_refl
    | some v => exact hv v rfl

end Property.Evolves

/-! ### Objects -/

/-- What may become of an object. No key disappears or changes its place, and each property becomes
what may become of it. -/
structure Object.Evolves (o o' : Object) : Prop where
  ownKeys : o.ownKeys <+: o'.ownKeys
  properties : ∀ key p, o.own? key = some p → ∃ p', o'.own? key = some p' ∧ p.Evolves p'

/-- The second object has the keys and the prototype of the first and is not extensible. -/
structure Object.StaysClosed (o o' : Object) : Prop where
  extensible : o'.extensible = false
  ownKeys : o'.ownKeys = o.ownKeys
  prototype : o'.prototype = o.prototype

namespace Object

variable {o o' o'' : Object} {key : String} {d : Descriptor}

theorem Evolves.refl (o : Object) : Evolves o o :=
  ⟨List.prefix_rfl, fun _ p hp => ⟨p, hp, .refl p⟩⟩

theorem Evolves.trans (h : Evolves o o') (h' : Evolves o' o'') : Evolves o o'' := by
  constructor
  case ownKeys => exact h.ownKeys.trans h'.ownKeys
  case properties =>
    intro key p hp
    obtain ⟨p', hp', hpp'⟩ := h.properties key p hp
    obtain ⟨p'', hp'', hpp''⟩ := h'.properties key p' hp'
    exact ⟨p'', hp'', hpp'.trans hpp''⟩

/-- Storing a property under a new key, or what has become of the one that was there. -/
theorem Evolves.store {p : Property} (hp : ∀ q, o.own? key = some q → q.Evolves p) :
    Evolves o (o.store key p) := by
  constructor
  case ownKeys =>
    rw [ownKeys_store]
    split
    · exact List.prefix_rfl
    · exact List.prefix_append _ _
  case properties =>
    intro key' q hq
    rw [own?_store]
    split
    · next hkey =>
      subst hkey
      exact ⟨p, rfl, hp q hq⟩
    · exact ⟨q, hq, .refl q⟩

theorem Evolves.define (h : o.define key d = .ok o') : Evolves o o' := by
  rcases define_cases h with ⟨hnone, -, rfl⟩ | ⟨p, hp, hpermits, rfl⟩
  · apply Evolves.store
    intro q hq
    rw [hnone] at hq
    cases hq
  · apply Evolves.store
    intro q hq
    cases hp.symm.trans hq
    exact .of_permits hpermits

theorem StaysClosed.refl (hx : o.extensible = false) : StaysClosed o o := ⟨hx, rfl, rfl⟩

theorem StaysClosed.trans (h : StaysClosed o o') (h' : StaysClosed o' o'') : StaysClosed o o'' :=
  ⟨h'.extensible, h'.ownKeys.trans h.ownKeys, h'.prototype.trans h.prototype⟩

theorem StaysClosed.define (hx : o.extensible = false) (h : o.define key d = .ok o') :
    StaysClosed o o' := by
  rcases define_cases h with ⟨-, hx', -⟩ | ⟨p, hp, -, rfl⟩
  · rw [hx] at hx'
    cases hx'
  · refine ⟨hx, ?_, rfl⟩
    rw [ownKeys_store, if_pos]
    exact Option.isSome_iff_exists.2 ⟨p, hp⟩

end Object

/-! ### Changes -/

namespace Store

variable {made : FunctionSlots → Prop} {flags : Prop} {s s' : Store} {r : ObjectRef}
  {o o' : Object}

theorem Replacement.evolves (ho : s.object? r = some o) (h : Replacement flags s r o o') :
    o.Evolves o' := by
  cases h with
  | define hd => exact .define hd
  | relink _ hw =>
    rcases withPrototype_cases ho hw with rfl | ⟨-, -, rfl⟩
    · exact .refl _
    · exact ⟨List.prefix_rfl, fun _ p hp => ⟨p, hp, .refl p⟩⟩
  | setExtensible | setClass => exact ⟨List.prefix_rfl, fun _ p hp => ⟨p, hp, .refl p⟩⟩

/-- Where the flag is not written, an object that is not extensible stays closed. -/
theorem Replacement.staysClosed (ho : s.object? r = some o) (hx : o.extensible = false)
    (h : Replacement False s r o o') : o.StaysClosed o' := by
  cases h with
  | define hd => exact .define hx hd
  | relink _ hw =>
    rcases withPrototype_cases ho hw with rfl | ⟨hx', -⟩
    · exact .refl hx
    · rw [hx] at hx'
      cases hx'
  | setExtensible _ hflag => exact hflag.elim
  | setClass => exact ⟨hx, rfl, rfl⟩

theorem Replacement.distinct (ho : s.object? r = some o) (h : Replacement flags s r o o')
    (hd : o.properties.Distinct) : o'.properties.Distinct := by
  cases h with
  | define hdefine =>
    obtain ⟨p, rfl⟩ := Object.define_eq_store hdefine
    exact hd.insert _ p
  | relink _ hw => rcases withPrototype_cases ho hw with rfl | ⟨-, -, rfl⟩ <;> exact hd
  | setExtensible | setClass => exact hd

theorem Changes.evolves (h : Changes made flags s s') (ho : s.object? r = some o) :
    ∃ o', s'.object? r = some o' ∧ o.Evolves o' := by
  induction h with
  | refl => exact ⟨o, ho, .refl o⟩
  | tail _ hc ih =>
    obtain ⟨o₁, ho₁, hoo₁⟩ := ih
    obtain ⟨o', ho', ho₁o'⟩ := hc.exists_object? (.refl o₁) (fun _ hro => hro.evolves ho₁) ho₁
    exact ⟨o', ho', hoo₁.trans ho₁o'⟩

theorem Changes.staysClosed (h : Changes made False s s') (ho : s.object? r = some o)
    (hx : o.extensible = false) : ∃ o', s'.object? r = some o' ∧ o.StaysClosed o' := by
  induction h with
  | refl => exact ⟨o, ho, .refl hx⟩
  | tail _ hc ih =>
    obtain ⟨o₁, ho₁, hoo₁⟩ := ih
    have hx₁ := hoo₁.extensible
    obtain ⟨o', ho', ho₁o'⟩ := hc.exists_object? (.refl hx₁)
      (fun _ hro => hro.staysClosed ho₁ hx₁) ho₁
    exact ⟨o', ho', hoo₁.trans ho₁o'⟩

/-- No object has a key twice. -/
theorem Reachable.distinct (hs : s.Reachable) (ho : s.object? r = some o) :
    o.properties.Distinct := by
  have hall : ∀ r o, s.object? r = some o → o.properties.Distinct := by
    refine hs.induction (P := fun s => ∀ r o, s.object? r = some o → o.properties.Distinct)
      (fun r o ho => by cases r <;> cases ho) ?_
    intro s s' hs hc r o ho
    cases hc.objects with
    | none h => exact hs r o ((h r).symm.trans ho)
    | new _ hfresh _ h =>
      rw [h] at ho
      split at ho
      · cases ho
        exact hfresh.distinct
      · exact hs r o ho
    | @replaced r' x x' hx hrx h =>
      rw [h] at ho
      split at ho
      · cases ho
        exact hrx.distinct hx (hs r' x hx)
      · exact hs r o ho
  exact hall r o ho

/-! ### Runs -/

/-- The object is not extensible from the beginning of a series of operations to its end. -/
def ClosedThroughout (s : Store) (r : ObjectRef) (ops : List Operation) : Prop :=
  Operation.Throughout s ops fun s => ∀ o ∈ s.object? r, o.extensible = false

instance (s : Store) (r : ObjectRef) (ops : List Operation) :
    Decidable (s.ClosedThroughout r ops) :=
  Operation.decidableThroughout _ s ops

/-- The operation that writes the flag of an object writes nothing else. -/
theorem object?_perform_setExtensible {r' : ObjectRef} (hr' : s.Live r') (extensible : Bool) :
    ((Operation.setExtensible r' extensible).perform s).object? r =
      if r = r' then (s.object? r).map fun o => { o with extensible } else s.object? r := by
  obtain ⟨x, hx⟩ := Option.isSome_iff_exists.1 hr'
  simp only [Operation.perform, finalState, Effect.updateObject, Effect.replaceObject, hx,
    object?_setObject]
  split
  · next hr =>
    subst hr
    simp [hx]
  · rfl

/-- One operation leaves the keys and the prototype of an object that is not extensible. -/
theorem Operation.ownKeys_prototype_perform {op : Operation} (hop : op.Fits s)
    (ho : s.object? r = some o) (hx : o.extensible = false) :
    ∃ o', (op.perform s).object? r = some o' ∧ o'.ownKeys = o.ownKeys ∧
      o'.prototype = o.prototype := by
  by_cases hflag : op.WritesFlag
  · cases op with
    | setExtensible r' extensible =>
      rw [object?_perform_setExtensible hop, ho]
      split <;> exact ⟨_, rfl, rfl, rfl⟩
    | _ => exact hflag.elim
  · obtain ⟨o', ho', hclosed⟩ :=
      ((Operation.changes hop).weaken (fun _ hf => hf) hflag).staysClosed ho hx
    exact ⟨o', ho', hclosed.ownKeys, hclosed.prototype⟩

theorem ClosedThroughout.staysClosed {ops : List Operation} (h : s.ClosedThroughout r ops)
    (hops : Operation.FitAll s ops) (ho : s.object? r = some o) :
    ∃ o', (Operation.performAll s ops).object? r = some o' ∧ o.StaysClosed o' := by
  induction ops generalizing s o with
  | nil => exact ⟨o, ho, .refl (h.first o ho)⟩
  | cons op ops ih =>
    obtain ⟨hnow, hlater⟩ := Operation.throughout_cons.1 h
    obtain ⟨o₁, ho₁, hkeys, hprototype⟩ :=
      Operation.ownKeys_prototype_perform hops.1 ho (hnow o ho)
    -- after the operation the object is still not extensible, whatever the operation was
    have hclosed : o.StaysClosed o₁ := ⟨hlater.first o₁ ho₁, hkeys, hprototype⟩
    obtain ⟨o', ho', ho₁o'⟩ := ih hlater hops.2 ho₁
    exact ⟨o', ho', hclosed.trans ho₁o'⟩

/-- **The integrity of properties.** After any series of operations, accepted or refused, an object
has no key twice, its keys begin with those that it had before, a property that was not configurable
has its attributes, and its value if it was not writable either. If the object was not extensible
all the time, it has no other keys and no other prototype.

That its properties are complete is said too, but it is no result of the operations: a `Property`
has all four parts by its type. What is left out of a request is filled in where the property is
built, by `Descriptor.completed` and `Descriptor.appliedTo`. -/
theorem property_integrity (hs : s.Reachable) {ops : List Operation}
    (hops : Operation.FitAll s ops) (ho : s.object? r = some o) :
    ∃ o', (Operation.performAll s ops).object? r = some o' ∧ o'.properties.Distinct ∧
      (∀ key p, o'.own? key = some p →
        p.toDescriptor.value.isSome = true ∧ p.toDescriptor.writable.isSome = true ∧
          p.toDescriptor.enumerable.isSome = true ∧ p.toDescriptor.configurable.isSome = true) ∧
      o.Evolves o' ∧
      (s.ClosedThroughout r ops → o'.ownKeys = o.ownKeys ∧ o'.prototype = o.prototype) := by
  have hsteps : Steps s (Operation.performAll s ops) := Steps.performAll hops
  obtain ⟨o', ho', hevolves⟩ := hsteps.changes.evolves ho
  have hdistinct : o'.properties.Distinct := Reachable.distinct (hs.trans hsteps) ho'
  refine ⟨o', ho', hdistinct, ?_, hevolves, ?_⟩
  · intro key p _
    exact ⟨rfl, rfl, rfl, rfl⟩
  · intro hclosed
    obtain ⟨o'', ho'', hstays⟩ := hclosed.staysClosed hops ho
    cases ho'.symm.trans ho''
    exact ⟨hstays.ownKeys, hstays.prototype⟩

/-- What is refused by an object that is not extensible and whose property cannot be changed. -/
def refusedRequests : List Operation :=
  [.newLoose {}, .defineProperty (.loose 0) "a" { value := some (.boolean true) },
    .defineProperty (.loose 0) "a" { writable := some true },
    .defineProperty (.loose 0) "b" { value := some .null },
    .setPrototype (.loose 0) (some (.loose 1))]

theorem property_integrity_refused :
    let s := Operation.performAll {} [.newLoose {},
      .defineProperty (.loose 0) "a" { value := some .null }, .setExtensible (.loose 0) false]
    ∃ o o', s.object? (.loose 0) = some o ∧
      (Operation.performAll s refusedRequests).object? (.loose 0) = some o' ∧
      o.Evolves o' ∧ o'.ownKeys = o.ownKeys ∧ o'.prototype = o.prototype := by
  intro s
  have hs : s.Reachable := Reachable.performAll (by decide +kernel)
  have hops : Operation.FitAll s refusedRequests := by decide +kernel
  have ho : (s.object? (.loose 0)).isSome = true := by decide +kernel
  obtain ⟨o, ho⟩ := Option.isSome_iff_exists.1 ho
  obtain ⟨o', ho', -, -, hevolves, hclosed⟩ := property_integrity hs hops ho
  have hthroughout : s.ClosedThroughout (.loose 0) refusedRequests := by decide +kernel
  exact ⟨o, o', ho, ho', hevolves, hclosed hthroughout⟩

end Store

end FunctionObjects
