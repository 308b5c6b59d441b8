import FunctionObjects.Proofs.Store.Frame

/-!
# What an object inherits

To look for a key is to ask the objects of the prototype chain for it, one after the other, until
one has it. `Asks` says which objects are asked: those before which none on the chain has the key.
Of the objects that are asked at most one has the key, and its property is what is found.

So the answer depends on what the objects that are asked have under the key, and on the links
between them, and on nothing else (`Linked.property?_congr`). An operation touches these things at
its target only, and there one key at most (`Operation.Touches`). Whatever is done without touching
them makes no difference to the answer: objects behind the one that has the key may be changed and
linked anew, and so may the objects that are asked, as long as it is under other keys.
-/

namespace FunctionObjects

namespace Store

variable {s s' : Store} {key : String} {r x : ObjectRef}

/-! ### The objects that are asked -/

/-- When a key is looked for in the object at `r`, the object at `x` is asked for it. -/
def Asks (s : Store) (key : String) (r x : ObjectRef) : Prop :=
  Leads s.prototype? (fun y => s.own? key y = none) x r

namespace Linked

theorem live_of_asks (hs : s.Linked) (hr : s.Live r) (hx : s.Asks key r x) : s.Live x := by
  obtain ⟨l, hl⟩ := hs.ends r
  obtain ⟨before, after, rfl, -⟩ := hl.leads_iff.1 hx
  exact hs.live_of_mem hl hr x (by simp)

/-- What is found is what one of the objects that are asked has. -/
theorem property?_eq_some_iff (hs : s.Linked) (hr : s.Live r) {p : Property} :
    s.property? r key = some p ↔ ∃ q, s.own? key q = some p ∧ s.Asks key r q := by
  obtain ⟨l, hl⟩ := hs.ends r
  rw [property?, hs.firstInherited_eq hl hr]
  exact hl.findSome?_eq_some_iff

end Linked

/-! ### Objects that answer alike -/

/-- Asked for a key, the object at `x` gives in both stores the same answer: the same property or
none, and the same prototype to be asked next. The heaps are remembered, as in `Spares`. -/
structure AnswersAlike (key : String) (x : ObjectRef) (s s' : Store) : Prop where
  own : s'.own? key x = s.own? key x
  prototype : s'.prototype? x = s.prototype? x
  live : s.Live x → s'.Live x
  hasHeap : ∀ h, s.HasHeap h → s'.HasHeap h

theorem Spares.answersAlike (h : Spares x s s') (key : String) : AnswersAlike key x s s' where
  own := by rw [own?, own?, h.object]
  prototype := by rw [prototype?, prototype?, h.object]
  live hx := by rwa [Live, h.object]
  hasHeap := h.hasHeap

namespace AnswersAlike

variable {α β : Type} {s₁ s₂ s₃ : Store}

theorem refl (key : String) (x : ObjectRef) (s : Store) : AnswersAlike key x s s :=
  (Spares.refl x s).answersAlike key

theorem trans (h : AnswersAlike key x s₁ s₂) (h' : AnswersAlike key x s₂ s₃) :
    AnswersAlike key x s₁ s₃ where
  own := h'.own.trans h.own
  prototype := h'.prototype.trans h.prototype
  live := fun hx => h'.live (h.live hx)
  hasHeap := fun i hi => h'.hasHeap i (h.hasHeap i hi)

theorem bind {act : Effect α} {f : α → Effect β} {Q : α → Store → Prop} {Q' : β → Store → Prop}
    (h : Moves (AnswersAlike key x) act s Q)
    (hf : ∀ a s', AnswersAlike key x s s' → Q a s' → Moves (AnswersAlike key x) (f a) s' Q') :
    Moves (AnswersAlike key x) (act >>= f) s Q' :=
  Moves.bind (fun _ _ _ => .trans) h hf

end AnswersAlike

/-- The answer to a key depends on the answers of the objects that are asked for it. -/
theorem Linked.property?_congr (hs : s.Linked) (hs' : s'.Linked) (hr : s.Live r)
    (halike : ∀ x, s.Asks key r x → AnswersAlike key x s s') :
    s'.property? r key = s.property? r key := by
  have hasks : ∀ q, s'.Asks key r q ↔ s.Asks key r q := by
    intro q
    apply leads_congr
    intro y hy
    exact ⟨(halike y hy).prototype, by rw [(halike y hy).own]⟩
  have hr' : s'.Live r := (halike r .here).live hr
  apply Option.ext
  intro p
  rw [hs'.property?_eq_some_iff hr', hs.property?_eq_some_iff hr]
  constructor
  · rintro ⟨q, hq, hask⟩
    rw [hasks] at hask
    exact ⟨q, (halike q hask).own.symm.trans hq, hask⟩
  · rintro ⟨q, hq, hask⟩
    exact ⟨q, (halike q hask).own.trans hq, (hasks q).2 hask⟩

end Store

/-! ### What an operation touches -/

open Store

variable {s : Store} {key : String} {r x : ObjectRef}

namespace Effect

/-- A change that leaves the property and the prototype of an object is not noticed in its answer,
whichever object it is made to. -/
theorem answersAlike_updateObject {f : Object → Except ObjectError Object}
    (hf : ∀ o o', f o = .ok o' → o'.own? key = o.own? key ∧ o'.prototype = o.prototype)
    (y : ObjectRef) :
    Moves (AnswersAlike key x) (updateObject y f) s fun _ _ => True := by
  by_cases hxy : y = x
  · subst hxy
    simp only [Moves, updateObject, replaceObject]
    cases ho : s.object? y with
    | none => exact .refl key y s
    | some o =>
      dsimp only
      cases ho' : f o with
      | error e => exact .refl key y s
      | ok o' =>
        obtain ⟨hown, hprototype⟩ := hf o o' ho'
        have hobject : (s.setObject y o').object? y = some o' := by
          simp [object?_setObject, ho]
        refine ⟨⟨?_, ?_, fun _ => .of_object? hobject, fun i => (hasHeap_setObject s y o' i).2⟩,
          trivial⟩
        · simp [own?, hobject, ho, hown]
        · simp [prototype?, hobject, ho, hprototype]
  · exact (spares_replaceObject hxy _).imp fun _ _ h => h.answersAlike key

theorem answersAlike_defineProperty {y : ObjectRef} {key' : String}
    (hne : ¬ (x = y ∧ key = key')) (d : Descriptor) :
    Moves (AnswersAlike key x) (defineProperty y key' d) s fun _ _ => True := by
  by_cases hxy : y = x
  · subst hxy
    refine answersAlike_updateObject (fun o o' ho => ?_) y
    obtain ⟨p, rfl⟩ := Object.define_eq_store ho
    exact ⟨(Object.own?_store o key' key p).trans (if_neg fun hkey => hne ⟨rfl, hkey⟩), rfl⟩
  · exact (spares_defineProperty hxy key' d).imp fun _ _ h => h.answersAlike key

/-- Slots are no part of an answer. -/
theorem answersAlike_updateFunction (id : FunctionId) (f : FunctionSlots → FunctionSlots) :
    Moves (AnswersAlike key x) (updateFunction id f) s
      fun _ s' => s.Present x → s'.Present x := by
  have hobject : (s.modifyFunction id f).object? x = s.object? x := by cases x <;> rfl
  have hgrows := grows_modifyFunction s id f
  refine ⟨⟨?_, ?_, hgrows.live, fun _ => hgrows.hasHeap⟩, fun hx => ?_⟩
  · rw [own?, own?, hobject]
  · rw [prototype?, prototype?, hobject]
  · refine ⟨hgrows.live hx.live, fun i hi => ?_⟩
    rw [slotsId?, hobject] at hi
    exact hgrows.hasFunction (hx.slots i hi)

end Effect

namespace Closure

open Effect

theorem answersAlike_makeConstructor {c : Closure} {h : HeapId} (hx : s.Present x)
    (hh : s.HasHeap h) (hne : ¬ (x = c.ref ∧ key = WellKnownKey.prototype.text)) (p : ObjectId) :
    Moves (AnswersAlike key x) (c.makeConstructor h p) s fun _ _ => True := by
  refine AnswersAlike.bind (answersAlike_updateFunction c.slots _) fun _ s₁ h₁ hpresent => ?_
  -- what is made is new, so it is not the object that is asked
  have hcreate := spares_createObject (hpresent hx) (h₁.hasHeap h hh) (some p)
  refine AnswersAlike.bind (hcreate.imp fun _ _ h => h.answersAlike key) fun new s₂ _ hnew => ?_
  refine AnswersAlike.bind ((spares_defineProperty hnew _ _).imp fun _ _ h => h.answersAlike key)
    fun _ s₃ _ _ => ?_
  exact answersAlike_defineProperty hne _

end Closure

namespace Store

/-- The operation bears on what an object answers to a key: it gives the object a prototype, or a
property under this key. -/
def Operation.Touches (key : String) (x : ObjectRef) : Operation → Prop
  | setPrototype r _ => x = r
  | reparent h id _ => x = .allocated h id
  | defineProperty r key' _ => x = r ∧ key = key'
  | setLength c _ => x = c.ref ∧ key = WellKnownKey.length.text
  | setName c _ _ => x = c.ref ∧ key = WellKnownKey.name.text
  | makeConstructor c _ _ => x = c.ref ∧ key = WellKnownKey.prototype.text
  | _ => False

/-- An operation that does not touch the answer of an object leaves it alone. -/
theorem answersAlike_perform (hs : s.Linked) (hscoped : s.Scoped) {op : Operation}
    (hfits : op.Fits s) (hx : s.Live x) (hnot : ¬ op.Touches key x) :
    AnswersAlike key x s (op.perform s) := by
  by_cases htarget : op.target? = some x
  · cases op with
    | setPrototype r p =>
      cases htarget
      exact absurd rfl hnot
    | reparent h id p =>
      cases htarget
      exact absurd rfl hnot
    | defineProperty r key' d => exact (Effect.answersAlike_defineProperty hnot d).finalState
    | setExtensible r extensible =>
      refine (Effect.answersAlike_updateObject (fun o o' ho => ?_) r).finalState
      cases ho
      exact ⟨rfl, rfl⟩
    | setLength c length => exact (Effect.answersAlike_defineProperty hnot _).finalState
    | setName c name lead => exact (Effect.answersAlike_defineProperty hnot _).finalState
    | makeConstructor c h p =>
      exact
        (Closure.answersAlike_makeConstructor (hscoped.present hx) hfits.2 hnot p).finalState
    | makeMethod c home => exact (Effect.answersAlike_updateFunction c.slots _).finalState
    | _ => cases htarget
  · exact (Operation.spares hs hscoped hfits hx htarget).answersAlike key

/-- So does a series of such operations. -/
theorem answersAlike_performAll (hs : s.Reachable) {ops : List Operation}
    (hfits : Operation.FitAll s ops) (hx : s.Live x) (hnot : ∀ op ∈ ops, ¬ op.Touches key x) :
    AnswersAlike key x s (Operation.performAll s ops) := by
  induction ops generalizing s with
  | nil => exact .refl key x s
  | cons op ops ih =>
    have hone := answersAlike_perform hs.linked hs.scoped hfits.1 hx (hnot op (by simp))
    have hrest := ih (hs.perform op hfits.1) hfits.2 (hone.live hx) fun op' hop' =>
      hnot op' (by simp [hop'])
    exact hone.trans hrest

/-- **Inherited lookup.** In a reachable store the objects that are asked for a key are those of the
finite chain before which none has the key. An object has a property under the key, its own or an
inherited one, exactly if one on the chain has it as its own. The value is that of the object that
is asked and has the key, and `undefined` if there is none. Either answer is the object's own if it
has the key, and else that of its prototype, if there is one. After any operations that do not touch
the answers of the objects that are asked, both are what they were before. -/
theorem inherited_lookup (hs : s.Reachable) (hr : s.Live r) (key : String) :
    (∃ l, Chain s.prototype? r l ∧
        (∀ x, s.Asks key r x ↔
          ∃ before after, l = before ++ x :: after ∧ ∀ y ∈ before, s.own? key y = none) ∧
        (s.hasProperty r key = true ↔ ∃ q ∈ l, (s.own? key q).isSome = true) ∧
        (∀ q p, s.Asks key r q → s.own? key q = some p → s.getProperty r key = p.value) ∧
        ((∀ q ∈ l, s.own? key q = none) → s.getProperty r key = .undefined)) ∧
      (s.hasProperty r key =
        ((s.own? key r).isSome ||
          (s.prototype? r).elim false fun q => s.hasProperty q key)) ∧
      (s.getProperty r key =
        match s.own? key r with
        | some p => p.value
        | none => (s.prototype? r).elim .undefined fun q => s.getProperty q key) ∧
      ∀ ops, Operation.FitAll s ops →
        (∀ op ∈ ops, ∀ x, s.Asks key r x → ¬ op.Touches key x) →
          (Operation.performAll s ops).hasProperty r key = s.hasProperty r key ∧
            (Operation.performAll s ops).getProperty r key = s.getProperty r key := by
  have hlinked := hs.linked
  refine ⟨?_, hlinked.hasProperty_rec hr key, hlinked.getProperty_rec hr key, ?_⟩
  · obtain ⟨l, hl⟩ := hlinked.ends r
    refine ⟨l, hl, fun x => hl.leads_iff, ?_, fun q p hask hp => ?_, fun hnone => ?_⟩
    · rw [hlinked.hasProperty_eq hl hr, List.any_eq_true]
    · rw [getProperty, (hlinked.property?_eq_some_iff hr).2 ⟨q, hp, hask⟩]
      rfl
    · rw [hlinked.getProperty_eq hl hr, List.findSome?_eq_none_iff.2 hnone]
      rfl
  · intro ops hfits hnot
    have hreachable : (Operation.performAll s ops).Reachable :=
      Relation.ReflTransGen.trans hs (Steps.performAll hfits)
    have hsame : (Operation.performAll s ops).property? r key = s.property? r key := by
      refine hlinked.property?_congr hreachable.linked hr fun x hx => ?_
      exact answersAlike_performAll hs hfits (hlinked.live_of_asks hr hx)
        fun op hop => hnot op hop x hx
    exact ⟨by rw [hasProperty, hasProperty, hsame], by rw [getProperty, getProperty, hsame]⟩

/-- Three objects inherit from one another. The last has a value under a key, and the second has
`undefined` there. -/
def hidesValue : List Operation :=
  [.newHeap, .newLoose {}, .createObject 0 none, .createObject 0 (some 0), .createObject 0 (some 1),
    .defineProperty (.allocated 0 0) "k" (.data .null true true true),
    .defineProperty (.allocated 0 1) "k" (.data .undefined true true true)]

/-- What is hidden is changed and linked anew, the second object is closed, and the first gets a
property under another key. -/
def aroundHidden : List Operation :=
  [.defineProperty (.allocated 0 0) "k" (.data (.boolean true) true true true), .createRealm 0,
    .setPrototype (.allocated 0 0) (some (.loose 0)), .setExtensible (.allocated 0 1) false,
    .defineProperty (.allocated 0 2) "j" (.data .null true true true), .reparent 0 0 none]

/-- The first object has the property with the value `undefined`, before and afterwards. -/
theorem inherited_lookup_hidden :
    let s := Operation.performAll {} hidesValue
    let s' := Operation.performAll s aroundHidden
    let r : ObjectRef := .allocated 0 2
    s.Reachable ∧ s.Live r ∧ Operation.FitAll s aroundHidden ∧
      s'.own? "k" (.allocated 0 0) ≠ s.own? "k" (.allocated 0 0) ∧
      s.hasProperty r "k" = true ∧ s.getProperty r "k" = .undefined ∧
      s'.hasProperty r "k" = true ∧ s'.getProperty r "k" = .undefined := by
  intro s s' r
  have hs : s.Reachable := Reachable.performAll (by decide +kernel)
  have hr : s.Live r := by decide +kernel
  have hfits : Operation.FitAll s aroundHidden := by decide +kernel
  have hnext : s.prototype? r = some (.allocated 0 1) := by decide +kernel
  obtain ⟨p, hp, hvalue⟩ : ∃ p, s.own? "k" (.allocated 0 1) = some p ∧ p.value = .undefined :=
    Option.map_eq_some_iff.1 (by decide +kernel)
  have hasks : ∀ x, s.Asks "k" r x ↔ x = r ∨ x = .allocated 0 1 := by
    intro x
    constructor
    · rintro (_ | ⟨-, hlink, hrest⟩)
      · exact .inl rfl
      · cases hnext.symm.trans hlink
        rcases hrest with _ | ⟨hnone, -, -⟩
        · exact .inr rfl
        · rw [hp] at hnone
          cases hnone
    · rintro (rfl | rfl)
      · exact .here
      · exact .link (by decide +kernel) hnext .here
  obtain ⟨⟨l, hl, hlist, hhas, hget, -⟩, -, -, hlater⟩ := inherited_lookup hs hr "k"
  have hnot : ∀ op ∈ aroundHidden, ∀ x, s.Asks "k" r x → ¬ op.Touches "k" x := by
    simp [hasks, aroundHidden, Operation.Touches, r]
  obtain ⟨hhas', hget'⟩ := hlater aroundHidden hfits hnot
  have hmem : .allocated 0 1 ∈ l := by
    obtain ⟨before, after, rfl, -⟩ := (hlist (.allocated 0 1)).1 ((hasks _).2 (.inr rfl))
    simp
  have htrue : s.hasProperty r "k" = true := hhas.2 ⟨_, hmem, by simp [hp]⟩
  have hundefined : s.getProperty r "k" = .undefined :=
    (hget _ p ((hasks _).2 (.inr rfl)) hp).trans hvalue
  exact ⟨hs, hr, hfits, by decide +kernel, htrue, hundefined, hhas'.trans htrue,
    hget'.trans hundefined⟩

end Store

end FunctionObjects
