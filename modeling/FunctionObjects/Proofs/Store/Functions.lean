import FunctionObjects.Function.Creation
import FunctionObjects.Proofs.Store.Change

/-!
# Where functions come from

A function keeps what it was made with: of its slots only the mark of a constructor and the home
object are ever written, and the mark is not taken away again (`FunctionSlots.Becomes`). So each
function of a store can be traced back. Either it was already in an earlier store, or it was made in
between, and then what is known of all functions that were made in between is known of it.

This holds of slots that exist. An object refers to no others, and no two objects refer to the same
ones (`Scoped`). What an object refers to as its slots is fixed when it is made, as is the handle
that it is told, and so the parts of a function object go on to belong together (`Closure.InHeap`).
-/

namespace FunctionObjects

namespace FunctionSlots

/-- What a function was made with: the definition, and with it the species and the strictness of the
code, how the code treats `this`, the scope, the private scope and the realm. -/
def origin (f : FunctionSlots) : FunctionSlots :=
  { f with isConstructor := false, homeObject := none }

/-- The slots of a function at some time, and what they may be later. All that the function was made
with is the same, and a constructor remains one. -/
structure Becomes (f g : FunctionSlots) : Prop where
  origin : g.origin = f.origin
  isConstructor : f.isConstructor = true → g.isConstructor = true

namespace Becomes

variable {f f' f'' : FunctionSlots}

theorem refl (f : FunctionSlots) : f.Becomes f := ⟨rfl, id⟩

theorem trans (h : f.Becomes f') (h' : f'.Becomes f'') : f.Becomes f'' :=
  ⟨h'.origin.trans h.origin, fun hc => h'.isConstructor (h.isConstructor hc)⟩

theorem definition_eq (h : f.Becomes f') : f'.definition = f.definition :=
  (congrArg FunctionSlots.definition h.origin :)

theorem scope_eq (h : f.Becomes f') : f'.scope = f.scope :=
  (congrArg FunctionSlots.scope h.origin :)

theorem realm_eq (h : f.Becomes f') : f'.realm = f.realm :=
  (congrArg FunctionSlots.realm h.origin :)

end Becomes

end FunctionSlots

variable {made : FunctionSlots → Prop} {flags : Prop} {s s' : Store} {r : ObjectRef}
  {id : FunctionId} {f g : FunctionSlots}

namespace Store

theorem hasFunction_iff : s.HasFunction id ↔ ∃ f, s.function? id = some f := by
  rw [← Option.isSome_iff_exists]
  simp [HasFunction, function?]

theorem HasFunction.of_function? (hf : s.function? id = some f) : s.HasFunction id :=
  hasFunction_iff.2 ⟨f, hf⟩

theorem slotsId?_of_object? {o : Object} (ho : s.object? r = some o) : s.slotsId? r = o.slots := by
  rw [slotsId?, ho]
  rfl

theorem slots?_of_slotsId? (hid : s.slotsId? r = some id) : s.slots? r = s.function? id := by
  rw [slots?, hid]
  rfl

theorem slots?_of_object? {o : Object} (ho : s.object? r = some o) (hid : o.slots = some id) :
    s.slots? r = s.function? id :=
  slots?_of_slotsId? ((slotsId?_of_object? ho).trans hid)

theorem Live.of_slotsId? (hid : s.slotsId? r = some id) : s.Live r := by
  obtain ⟨o, ho, -⟩ := Option.bind_eq_some_iff.1 hid
  exact .of_object? ho

theorem Live.of_slots? (hf : s.slots? r = some f) : s.Live r := by
  obtain ⟨id, hid, -⟩ := Option.bind_eq_some_iff.1 hf
  exact .of_slotsId? hid

/-! ### The slots that an object refers to -/

/-- What replaces an object is a function if the object was one, and the same. -/
theorem Replacement.slots_eq {o o' : Object} (ho : s.object? r = some o)
    (h : Replacement flags s r o o') : o'.slots = o.slots := by
  cases h with
  | define hd =>
    obtain ⟨p, rfl⟩ := Object.define_eq_store hd
    rfl
  | relink _ hw =>
    rcases withPrototype_cases ho hw with rfl | ⟨-, -, rfl⟩ <;> rfl
  | setExtensible => rfl
  | setClass => rfl

/-- What an object refers to as its slots is fixed when it is made. -/
theorem Change.slotsId?_eq (hc : Change made flags s s') (hr : s.Live r) :
    s'.slotsId? r = s.slotsId? r := by
  cases hc.objects with
  | none h => rw [slotsId?, h, slotsId?]
  | @new r' o hr' _ _ h =>
    have hne : r ≠ r' := by
      rintro rfl
      exact hr' hr
    rw [slotsId?, h, if_neg hne, slotsId?]
  | @replaced r' o o' ho hro h =>
    rw [slotsId?, h]
    split
    · next hrr' =>
      subst hrr'
      rw [slotsId?_of_object? ho]
      exact hro.slots_eq ho
    · rfl

theorem Changes.slotsId?_eq (h : Changes made flags s s') (hr : s.Live r) :
    s'.slotsId? r = s.slotsId? r := by
  induction h with
  | refl => rfl
  | tail hs hc ih => exact (hc.slotsId?_eq ((Changes.grows hs).live hr)).trans ih

/-- An object that a change has made refers to slots that there were not, if to any, and it is the
only one. -/
theorem Change.slotsId?_of_not_live (hc : Change made flags s s') (hr : ¬ s.Live r)
    (hid : s'.slotsId? r = some id) :
    id = s.nextFunction ∧ s'.HasFunction id ∧ ∀ r', ¬ s.Live r' → s'.Live r' → r' = r := by
  obtain ⟨o, ho, hslots⟩ := Option.bind_eq_some_iff.1 hid
  cases hc.objects with
  | none h =>
    rw [h] at ho
    exact absurd (.of_object? ho) hr
  | new _ _ hnew h =>
    rw [h] at ho
    split at ho
    · next hr₀ =>
      cases ho
      obtain ⟨hnext, hlive⟩ := hnew id hslots
      refine ⟨hnext, hlive, fun r' hr' hlive' => ?_⟩
      by_contra hne
      rw [Live, h, if_neg (hr₀ ▸ hne)] at hlive'
      exact hr' hlive'
    · exact absurd (.of_object? ho) hr
  | replaced hold _ h =>
    rw [h] at ho
    split at ho
    · next hr' =>
      subst hr'
      exact absurd (.of_object? hold) hr
    · exact absurd (.of_object? ho) hr

/-- The slots of an object that was made by changes were made by them too. -/
theorem Changes.not_hasFunction (h : Changes made flags s s') (hr : ¬ s.Live r)
    (hid : s'.slotsId? r = some id) : ¬ s.HasFunction id := by
  induction h with
  | refl => exact absurd (.of_slotsId? hid) hr
  | @tail s₁ s₂ hs hc ih =>
    by_cases hr₁ : s₁.Live r
    · exact ih ((hc.slotsId?_eq hr₁).symm.trans hid)
    · obtain ⟨rfl, -⟩ := hc.slotsId?_of_not_live hr₁ hid
      exact fun hf => not_hasFunction_nextFunction s₁ ((Changes.grows hs).hasFunction hf)

/-! ### The parts of a function object -/

/-- The object of the function has been told the handle, and refers to the slots. -/
def HasClosure (s : Store) (c : Closure) : Prop :=
  (s.object? c.ref).map (fun o => (o.id, o.slots)) = some (some c.id, some c.slots)

instance (s : Store) (c : Closure) : Decidable (s.HasClosure c) :=
  inferInstanceAs (Decidable (_ = _))

theorem hasClosure_iff {c : Closure} :
    s.HasClosure c ↔ ∃ o, s.object? c.ref = some o ∧ o.id = some c.id ∧ o.slots = some c.slots := by
  simp [HasClosure]

theorem HasClosure.slotsId? {c : Closure} (hc : s.HasClosure c) :
    s.slotsId? c.ref = some c.slots := by
  obtain ⟨o, ho, -, hslots⟩ := hasClosure_iff.1 hc
  exact (slotsId?_of_object? ho).trans hslots

/-- What replaces an object has been told the same handle. -/
theorem Replacement.id_eq {o o' : Object} (ho : s.object? r = some o)
    (h : Replacement flags s r o o') : o'.id = o.id := by
  cases h with
  | define hd =>
    obtain ⟨p, rfl⟩ := Object.define_eq_store hd
    rfl
  | relink _ hw => rcases withPrototype_cases ho hw with rfl | ⟨-, -, rfl⟩ <;> rfl
  | setExtensible => rfl
  | setClass => rfl

theorem Change.hasClosure {c : Closure} (hc : Change made flags s s') (h : s.HasClosure c) :
    s'.HasClosure c := by
  obtain ⟨o, ho, hid, hslots⟩ := hasClosure_iff.1 h
  obtain ⟨o', ho', hid', hslots'⟩ := hc.exists_object?
    (R := fun o o' => o'.id = o.id ∧ o'.slots = o.slots) ⟨rfl, rfl⟩
    (fun _ hro => ⟨hro.id_eq ho, hro.slots_eq ho⟩) ho
  exact hasClosure_iff.2 ⟨o', ho', hid'.trans hid, hslots'.trans hslots⟩

end Store

open Store

/-- All the ways to a function lead to the same one: the handle names its object in the heap, and
the object has been told the handle and refers to the slots. -/
structure Closure.InHeap (c : Closure) (s : Store) (h : HeapId) : Prop where
  handle : s.get? h c.id = some c.ref
  object : s.HasClosure c

/-- They go on to do so. -/
theorem Closure.InHeap.changes {c : Closure} {h : HeapId} (hc : c.InHeap s h)
    (hs : Changes made flags s s') : c.InHeap s' h := by
  refine ⟨hs.grows.handles h c.id c.ref hc.handle, ?_⟩
  induction hs with
  | refl => exact hc.object
  | tail _ hchange ih => exact hchange.hasClosure ih

namespace Store

/-! ### The slots at a place -/

/-- A change leaves all slots as they are, puts those of a new function behind them, or turns some
into what they may become. -/
inductive FunctionChange (made : FunctionSlots → Prop) (s s' : Store) : Prop
  | none : (∀ id, s'.function? id = s.function? id) → FunctionChange made s s'
  | new {f : FunctionSlots} : made f → s.HasScope f.scope →
      (∀ id, s'.function? id = if id = s.nextFunction then some f else s.function? id) →
      FunctionChange made s s'
  | turned (id : FunctionId) (turn : FunctionSlots → FunctionSlots) :
      (∀ f : FunctionSlots, f.Becomes (turn f)) →
      (∀ id', s'.function? id' = if id' = id then (s.function? id).map turn else s.function? id') →
      FunctionChange made s s'

theorem Change.functions (hc : Change made flags s s') : FunctionChange made s s' := by
  cases hc with
  | @newFunction h o f _ _ _ hmade hscope =>
    exact .new hmade hscope fun id => function?_pushFunction s id f
  | markConstructor id =>
    exact .turned id (fun f => { f with isConstructor := true }) (fun _ => ⟨rfl, fun _ => rfl⟩)
      fun id' => function?_modifyFunction s id id' _
  | setHome id home =>
    exact .turned id (fun f => { f with homeObject := some home }) (fun _ => ⟨rfl, fun hc => hc⟩)
      fun id' => function?_modifyFunction s id id' _
  | @replace r => cases r <;> exact .none fun _ => rfl
  | @declarePrivate p description =>
    obtain ⟨-, -, -, -, hfunctions⟩ := declarePrivate_frame s p description
    exact .none fun id => by rw [function?, hfunctions, function?]
  | newHeap | newLoose | newObject | newScope | inScope | newPrivateScope | issueRealm =>
    exact .none fun _ => rfl

/-- Slots are not removed, and turn into what they may become. -/
theorem Change.becomes (hc : Change made flags s s') (hf : s.function? id = some f) :
    ∃ g, s'.function? id = some g ∧ f.Becomes g := by
  cases hc.functions with
  | none h => exact ⟨f, (h id).trans hf, .refl f⟩
  | new _ _ h =>
    have hne : id ≠ s.nextFunction := by
      rintro rfl
      exact not_hasFunction_nextFunction s (.of_function? hf)
    exact ⟨f, (h id).trans ((if_neg hne).trans hf), .refl f⟩
  | turned id' turn hturn h =>
    rw [h]
    split
    · next hid =>
      subst hid
      exact ⟨turn f, by rw [hf]; rfl, hturn f⟩
    · exact ⟨f, hf, .refl f⟩

theorem Changes.becomes (h : Changes made flags s s') (hf : s.function? id = some f) :
    ∃ g, s'.function? id = some g ∧ f.Becomes g := by
  induction h with
  | refl => exact ⟨f, hf, .refl f⟩
  | tail _ hc ih =>
    obtain ⟨g, hg, hfg⟩ := ih
    obtain ⟨g', hg', hgg'⟩ := hc.becomes hg
    exact ⟨g', hg', hfg.trans hgg'⟩

/-- Slots that are there after a change were there before, or they are those of the function that
the change has made. -/
theorem Change.function?_cases (hc : Change made flags s s') (hg : s'.function? id = some g) :
    (∃ f, s.function? id = some f ∧ f.Becomes g) ∨
      id = s.nextFunction ∧ made g ∧ s.HasScope g.scope := by
  cases hc.functions with
  | none h => exact .inl ⟨g, (h id).symm.trans hg, .refl g⟩
  | new hmade hscope h =>
    rw [h] at hg
    split at hg
    · next hid =>
      cases hg
      exact .inr ⟨hid, hmade, hscope⟩
    · exact .inl ⟨g, hg, .refl g⟩
  | turned id' turn hturn h =>
    rw [h] at hg
    split at hg
    · next hid =>
      subst hid
      obtain ⟨f, hf, rfl⟩ := Option.map_eq_some_iff.1 hg
      exact .inl ⟨f, hf, hturn f⟩
    · exact .inl ⟨g, hg, .refl g⟩

theorem Changes.function?_cases (h : Changes made flags s s') (hg : s'.function? id = some g) :
    (∃ f, s.function? id = some f ∧ f.Becomes g) ∨ ∃ f, made f ∧ f.Becomes g := by
  induction h generalizing g with
  | refl => exact .inl ⟨g, hg, .refl g⟩
  | tail _ hc ih =>
    rcases hc.function?_cases hg with ⟨g', hg', hgg'⟩ | ⟨-, hmade, -⟩
    · rcases ih hg' with ⟨f, hf, hfg⟩ | ⟨f, hf, hfg⟩
      · exact .inl ⟨f, hf, hfg.trans hgg'⟩
      · exact .inr ⟨f, hf, hfg.trans hgg'⟩
    · exact .inr ⟨g, hmade, .refl g⟩

/-! ### What functions refer to exists -/

/-- The slots that an object refers to exist, and no other object refers to them. The scope that the
code of a function sees exists. -/
structure Scoped (s : Store) : Prop where
  slots : ∀ r id, s.slotsId? r = some id → s.HasFunction id
  unshared : ∀ r r' id, s.slotsId? r = some id → s.slotsId? r' = some id → r = r'
  scope : ∀ id f, s.function? id = some f → s.HasScope f.scope

theorem Scoped.hasScope (hs : s.Scoped) (hf : s.slots? r = some f) : s.HasScope f.scope := by
  obtain ⟨id, -, hf⟩ := Option.bind_eq_some_iff.1 hf
  exact hs.scope id f hf

theorem scoped_empty : Scoped {} where
  slots := by rintro (_ | _) id hid <;> cases hid
  unshared := by rintro (_ | _) r' id hid <;> cases hid
  scope := by rintro ⟨_⟩ f hf; cases hf

theorem Scoped.change (hs : s.Scoped) (hc : Change made flags s s') : s'.Scoped where
  slots r id hid := by
    by_cases hr : s.Live r
    · rw [hc.slotsId?_eq hr] at hid
      exact hc.grows.hasFunction (hs.slots r id hid)
    · exact (hc.slotsId?_of_not_live hr hid).2.1
  unshared r r' id hid hid' := by
    -- what a new object refers to was not there for an old one to refer to
    have hnew : ∀ {x y}, s.Live x → s'.slotsId? x = some id → ¬ s.Live y →
        s'.slotsId? y ≠ some id := by
      intro x y hx hidx hy hidy
      rw [hc.slotsId?_eq hx] at hidx
      obtain ⟨rfl, -⟩ := hc.slotsId?_of_not_live hy hidy
      exact not_hasFunction_nextFunction s (hs.slots x _ hidx)
    by_cases hr : s.Live r <;> by_cases hr' : s.Live r'
    · rw [hc.slotsId?_eq hr] at hid
      rw [hc.slotsId?_eq hr'] at hid'
      exact hs.unshared r r' id hid hid'
    · exact absurd hid' (hnew hr hid hr')
    · exact absurd hid (hnew hr' hid' hr)
    · exact ((hc.slotsId?_of_not_live hr hid).2.2 r' hr' (.of_slotsId? hid')).symm
  scope id g hg := by
    rcases hc.function?_cases hg with ⟨f, hf, hfg⟩ | ⟨-, -, hscope⟩
    · rw [hfg.scope_eq]
      exact hc.grows.hasScope (hs.scope id f hf)
    · exact hc.grows.hasScope hscope

theorem Scoped.changes (hs : s.Scoped) (h : Changes made flags s s') : s'.Scoped := by
  induction h with
  | refl => exact hs
  | tail _ hc ih => exact ih.change hc

/-! ### The functions of a store -/

/-- What is no function does not become one, and a function keeps what it was made with. -/
theorem Scoped.slots?_origin (hs : s.Scoped) (h : Changes made flags s s') (hr : s.Live r) :
    (s'.slots? r).map FunctionSlots.origin = (s.slots? r).map FunctionSlots.origin := by
  rw [Store.slots?, h.slotsId?_eq hr, Store.slots?]
  cases hid : s.slotsId? r with
  | none => rfl
  | some id =>
    obtain ⟨f, hf⟩ := hasFunction_iff.1 (hs.slots r id hid)
    obtain ⟨g, hg, hfg⟩ := h.becomes hf
    simp [hf, hg, hfg.origin]

theorem Scoped.change_slots? (hs : s.Scoped) (hc : Change made flags s s')
    (hg : s'.slots? r = some g) :
    (∃ f, s.slots? r = some f ∧ f.Becomes g) ∨ ¬ s.Live r ∧ made g := by
  obtain ⟨id, hid, hg⟩ := Option.bind_eq_some_iff.1 hg
  have hcases := hc.function?_cases hg
  by_cases hr : s.Live r
  · rw [hc.slotsId?_eq hr] at hid
    rw [slots?_of_slotsId? hid]
    refine .inl (hcases.resolve_right ?_)
    rintro ⟨rfl, -⟩
    exact not_hasFunction_nextFunction s (hs.slots r _ hid)
  · obtain ⟨rfl, -⟩ := hc.slotsId?_of_not_live hr hid
    rcases hcases with ⟨f, hf, -⟩ | ⟨-, hmade, -⟩
    · exact absurd (.of_function? hf) (not_hasFunction_nextFunction s)
    · exact .inr ⟨hr, hmade⟩

/-- **Every function has an origin.** A function that is there after a series of changes was there
before, or it was made on the way. -/
theorem Scoped.slots? (hs : s.Scoped) (h : Changes made flags s s') (hg : s'.slots? r = some g) :
    (∃ f, s.slots? r = some f ∧ f.Becomes g) ∨ ¬ s.Live r ∧ ∃ f, made f ∧ f.Becomes g := by
  induction h generalizing g with
  | refl => exact .inl ⟨g, hg, .refl g⟩
  | tail hchanges hc ih =>
    -- a function that the last change has not made was there before it
    rcases (hs.changes hchanges).change_slots? hc hg with ⟨g', hg', hgg'⟩ | ⟨hr, hmade⟩
    · rcases ih hg' with ⟨f, hf, hfg⟩ | ⟨hr, f, hf, hfg⟩
      · exact .inl ⟨f, hf, hfg.trans hgg'⟩
      · exact .inr ⟨hr, f, hf, hfg.trans hgg'⟩
    · exact .inr ⟨fun hlive => hr ((Changes.grows hchanges).live hlive), g, hmade, .refl g⟩

end Store

end FunctionObjects
