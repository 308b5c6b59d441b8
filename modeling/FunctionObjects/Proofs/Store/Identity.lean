import FunctionObjects.Proofs.Object.Integrity
import FunctionObjects.Proofs.Store.Frame

/-!
# A handle means the same object forever

There are three ways to a function object: the handle, which the table of its heap leads from, the
place of the object, and the place of its slots. The object has been told its handle, but this was
written apart from the table, as the slots are kept apart from the object. In every reachable store
they agree (`Handles`): a handle leads to the object that was told it, no other object was told it
or has its slots, and so it does not matter which way to a function is taken.

They go on to agree about the same objects (`Kept`), as objects are only added, and at the end. What
is done to other objects does not reach this one, and what is done to it cannot make a function of
it, nor give a function other slots, other code, another scope or another realm:
`FunctionSlots.Becomes` is all that can happen to the slots. So a function that is found through a
value is the one that was made there, and has the slots that it was given then (`MadeWith`).
-/

namespace FunctionObjects

open Store

variable {s s' : Store} {h : HeapId} {r : ObjectRef} {id : FunctionId} {f : FunctionSlots}

/-! ### Functions in heaps -/

/-- The object of a function has been told the handle, so it is in a heap. -/
theorem Store.HasClosure.exists_inHeap (hs : s.Consistent) {c : Closure} (hc : s.HasClosure c) :
    ∃ h, c.InHeap s h := by
  obtain ⟨o, ho, hid, -⟩ := hasClosure_iff.1 hc
  have hplace : c.ref.numberInHeap? = some c.id := (hs.told c.ref o ho).symm.trans hid
  cases href : c.ref with
  | allocated h n =>
    rw [href] at hplace ho
    cases hplace
    refine ⟨h, ?_, hc⟩
    rw [href, hs.get?_of_lt (live_allocated_iff.1 (.of_object? ho))]
  | loose n =>
    rw [href] at hplace
    cases hplace

theorem Store.HasClosure.eq_of_ref_eq {c c' : Closure} (hc : s.HasClosure c)
    (hc' : s.HasClosure c') (href : c.ref = c'.ref) : c = c' := by
  obtain ⟨o, ho, hid, hslots⟩ := hasClosure_iff.1 hc
  obtain ⟨o', ho', hid', hslots'⟩ := hasClosure_iff.1 hc'
  rw [← href, ho] at ho'
  cases ho'
  calc
    c = ⟨c.id, c.ref, c.slots⟩ := rfl
    _ = ⟨c'.id, c'.ref, c'.slots⟩ := by
      rw [Option.some.inj (hid.symm.trans hid'), href, Option.some.inj (hslots.symm.trans hslots')]
    _ = c' := rfl

/-! ### The function that a value names -/

/-- A value names a function of a heap if it is the handle of an object there that is one. What is
found is then this handle, the object that has been told it, and the slots of that object. -/
theorem Closure.ofValue?_eq_some_iff (hs : s.Consistent) {v : Value} {c : Closure} :
    Closure.ofValue? s h v = some c ↔ v = c.value ∧ c.InHeap s h := by
  constructor
  · intro hc
    obtain ⟨id, hid, hc⟩ := Option.bind_eq_some_iff.1 hc
    obtain ⟨r, hr, hc⟩ := Option.bind_eq_some_iff.1 hc
    obtain ⟨o, ho, hc⟩ := Option.bind_eq_some_iff.1 hc
    obtain ⟨slots, hslots, hc⟩ := Option.bind_eq_some_iff.1 hc
    cases hc
    obtain ⟨-, rfl⟩ := hs.get?_eq_some_iff.1 hr
    refine ⟨?_, hr, hasClosure_iff.2 ⟨o, ho, hs.told _ o ho, hslots⟩⟩
    cases v <;> cases hid
    rfl
  · rintro ⟨rfl, hc⟩
    obtain ⟨o, ho, -, hslots⟩ := hasClosure_iff.1 hc.object
    simp [ofValue?, value, Value.object?, hc.handle, ho, hslots]

theorem Closure.exists_ofValue?_iff (hs : s.Consistent) {v : Value} :
    (∃ c, Closure.ofValue? s h v = some c) ↔
      ∃ id r slots, v = .object id ∧ s.resolve h id = .ok r ∧ s.slotsId? r = some slots := by
  constructor
  · rintro ⟨c, hc⟩
    obtain ⟨rfl, hin⟩ := (Closure.ofValue?_eq_some_iff hs).1 hc
    exact ⟨c.id, c.ref, c.slots, rfl, resolve_eq_ok_iff.2 hin.handle, hin.object.slotsId?⟩
  · rintro ⟨id, r, slots, rfl, hr, hslots⟩
    obtain ⟨o, ho, hoslots⟩ := Option.bind_eq_some_iff.1 hslots
    have hget : s.get? h id = some r := resolve_eq_ok_iff.1 hr
    obtain ⟨-, rfl⟩ := hs.get?_eq_some_iff.1 hget
    let c : Closure := ⟨id, .allocated h id, slots⟩
    have hc : s.HasClosure c := hasClosure_iff.2 ⟨o, ho, hs.told _ o ho, hoslots⟩
    exact ⟨c, (Closure.ofValue?_eq_some_iff hs).2 ⟨rfl, hget, hc⟩⟩

/-- So long as only changes are made, a handle that exists names the same function, or none. -/
theorem Closure.ofValue?_of_changes {made : FunctionSlots → Prop} {flags : Prop} {id : ObjectId}
    (hs : s.Consistent) (hs' : s'.Consistent) (hchanges : Changes made flags s s')
    (hid : id < s.heapSize h) :
    Closure.ofValue? s' h (.object id) = Closure.ofValue? s h (.object id) := by
  have hread : ∀ t : Store, t.get? h id = some (.allocated h id) →
      Closure.ofValue? t h (.object id) =
        (t.slotsId? (.allocated h id)).map fun slots => ⟨id, .allocated h id, slots⟩ := by
    intro t ht
    simp only [ofValue?, Value.object?, ht, slotsId?, Option.bind_eq_bind, Option.bind_some]
    cases t.object? (.allocated h id) with
    | none => rfl
    | some o => exact Option.map_eq_bind.symm
  have hid' : id < s'.heapSize h := Nat.lt_of_lt_of_le hid (hchanges.grows.heapSize h)
  rw [hread s (hs.get?_of_lt hid), hread s' (hs'.get?_of_lt hid'),
    hchanges.slotsId?_eq (live_allocated_iff.2 hid)]

namespace Store

/-! ### How functions were made -/

/-- An operation that is known to have been performed has made the function at the place, where
there was nothing, together with its slots. -/
def MadeWith (s : Store) (r : ObjectRef) (id : FunctionId) (g : FunctionSlots) : Prop :=
  ∃ s₀ op, s₀.Reachable ∧ Operation.Fits s₀ op ∧ op.makes? s₀ = some g ∧ ¬ s₀.Live r ∧
    ¬ s₀.HasFunction id ∧ (op.perform s₀).slotsId? r = some id ∧ Steps (op.perform s₀) s

/-- No function is a constructor from the start. -/
theorem MadeWith.isConstructor_eq (h : s.MadeWith r id f) : f.isConstructor = false := by
  obtain ⟨s₀, op, -, -, hmakes, -⟩ := h
  cases op with
  | createFunction => cases hmakes; rfl
  | instantiate => cases hmakes; rfl
  | _ => cases hmakes

theorem MadeWith.perform (h : s.MadeWith r id f) {op : Operation} (hfits : op.Fits s) :
    (op.perform s).MadeWith r id f := by
  obtain ⟨s₀, op₀, hs₀, hfits₀, hmakes, hr, hnew, hslots, hsteps⟩ := h
  exact ⟨s₀, op₀, hs₀, hfits₀, hmakes, hr, hnew, hslots, hsteps.tail ⟨op, hfits, rfl⟩⟩

/-- Every function has the slots with which it was made. -/
theorem Reachable.exists_madeWith (hs : s.Reachable) (hid : s.slotsId? r = some id)
    (hf : s.function? id = some f) : ∃ g, s.MadeWith r id g ∧ g.Becomes f := by
  induction hs generalizing f with
  | refl => cases r <;> cases hid
  | @tail s₁ s₂ hs₁ hstep ih =>
    obtain ⟨op, hfits, rfl⟩ := hstep
    have hchanges := Operation.changes_of_makes? hfits
    by_cases hr : s₁.Live r
    · -- a function that was there has the same slots, and these are what they may become
      rw [hchanges.slotsId?_eq hr] at hid
      obtain ⟨g, hg⟩ := hasFunction_iff.1 ((Reachable.scoped hs₁).slots r id hid)
      obtain ⟨g₀, hmade, hg₀⟩ := ih hid hg
      obtain ⟨f', hf', hgf'⟩ := hchanges.becomes hg
      cases hf.symm.trans hf'
      exact ⟨g₀, hmade.perform hfits, hg₀.trans hgf'⟩
    · have hnew : ¬ s₁.HasFunction id := hchanges.not_hasFunction hr hid
      obtain ⟨g, hg, hgf⟩ := (hchanges.function?_cases hf).resolve_left fun ⟨g, hg, _⟩ =>
        hnew (.of_function? hg)
      exact ⟨g, ⟨s₁, op, hs₁, hfits, hg, hr, hnew, hid, .refl⟩, hgf⟩

/-! ### The result -/

/-- What handles mean. A heap has as many handles as objects. A handle resolves if it is less than
their number, and then to an object that has been told it. No object is named twice, and what an
object has been told is what names it. No two objects have the same slots; so a function that is had
is in a heap, and its object alone or its slots alone settle which one it is. A value names a
function if it is the handle of an object that is one; what is found is the handle, the object and
the slots, and these are the slots with which the object was made. -/
structure Handles (s : Store) : Prop where
  handleCount : ∀ h, s.handleCount h = s.heapSize h
  resolve_iff : ∀ h id, (∃ r, s.resolve h id = .ok r) ↔ id < s.handleCount h
  carries : ∀ h id r, s.resolve h id = .ok r → ∃ o, s.object? r = some o ∧ o.id = some id
  injective : ∀ h id h' id' r, s.resolve h id = .ok r → s.resolve h' id' = .ok r →
    h = h' ∧ id = id'
  told : ∀ r o id, s.object? r = some o → o.id = some id → ∃ h, s.resolve h id = .ok r
  unshared : ∀ r r' id, s.slotsId? r = some id → s.slotsId? r' = some id → r = r'
  inHeap : ∀ c, s.HasClosure c → ∃ h, c.InHeap s h
  oneClosure : ∀ c c', s.HasClosure c → s.HasClosure c' → c.ref = c'.ref ∨ c.slots = c'.slots →
    c = c'
  names : ∀ h v, (∃ c, Closure.ofValue? s h v = some c) ↔
    ∃ id r slots, v = .object id ∧ s.resolve h id = .ok r ∧ s.slotsId? r = some slots
  ofValue : ∀ h v c, Closure.ofValue? s h v = some c ↔ v = c.value ∧ c.InHeap s h
  made : ∀ r id, s.slotsId? r = some id → ∃ f g, s.function? id = some f ∧ s.MadeWith r id g ∧
    g.isConstructor = false ∧ g.Becomes f

/-- What is given out with a new object: the handle names the object, which was not there, and
through its value the function that was given out is found again. -/
structure GivesOut (s : Store) : Prop where
  allocate : ∀ h o id r s', Operation.Fits s (.allocate h o) →
    Effect.allocate h o s = .ok (id, r) s' → s'.resolve h id = .ok r ∧ ¬ s.Live r
  createObject : ∀ h p id r s', Operation.Fits s (.createObject h p) →
    Effect.createObject h p s = .ok (id, r) s' → s'.resolve h id = .ok r ∧ ¬ s.Live r
  createFunction : ∀ h p d thisMode scope privateScope realm c s',
    Operation.Fits s (.createFunction h p d thisMode scope privateScope realm) →
    Closure.create h p d thisMode scope privateScope realm s = .ok c s' →
    Closure.ofValue? s' h c.value = some c ∧ ¬ s.Live c.ref
  instantiate : ∀ h context d c s', Operation.Fits s (.instantiate h context d) →
    Closure.instantiate h context d s = .ok c s' →
    Closure.ofValue? s' h c.value = some c ∧ ¬ s.Live c.ref

/-- What operations leave of a store. No heap shrinks, nor does its table, a handle goes on to mean
its object, and an object that no operation is about is the same, with its slots. No object is told
another handle or given other slots, and so none becomes a function; a function keeps what it was
made with, and a handle goes on to name the same function. -/
structure Kept (s : Store) (ops : List Operation) (s' : Store) : Prop where
  heapSize : ∀ h, s.heapSize h ≤ s'.heapSize h
  handleCount : ∀ h, s.handleCount h ≤ s'.handleCount h
  resolve : ∀ h id r, s.resolve h id = .ok r → s'.resolve h id = .ok r
  object : ∀ r, s.Live r → (∀ op ∈ ops, op.target? ≠ some r) →
    s'.object? r = s.object? r ∧ s'.slots? r = s.slots? r
  told : ∀ r o o', s.object? r = some o → s'.object? r = some o' → o'.id = o.id
  plain : ∀ r, s.Live r → s.slots? r = none → s'.slots? r = none
  slotsId : ∀ r, s.Live r → s'.slotsId? r = s.slotsId? r
  function : ∀ r f, s.slots? r = some f → ∃ g, s'.slots? r = some g ∧ f.Becomes g
  ofValue : ∀ h id, id < s.handleCount h →
    Closure.ofValue? s' h (.object id) = Closure.ofValue? s h (.object id)

theorem Reachable.handles (hs : s.Reachable) : s.Handles where
  handleCount := hs.linked.handleCount_eq
  resolve_iff h id := by simp [hs.linked.resolve_eq_ok_iff, hs.linked.handleCount_eq]
  carries h id r hr := by
    obtain ⟨hid, rfl⟩ := hs.linked.resolve_eq_ok_iff.1 hr
    obtain ⟨o, ho⟩ := Option.isSome_iff_exists.1 (live_allocated_iff.2 hid)
    exact ⟨o, ho, hs.linked.told _ o ho⟩
  injective h id h' id' r hr hr' := by
    obtain ⟨-, rfl⟩ := hs.linked.resolve_eq_ok_iff.1 hr
    obtain ⟨-, heq⟩ := hs.linked.resolve_eq_ok_iff.1 hr'
    cases heq
    exact ⟨rfl, rfl⟩
  told r o id ho hid := by
    rw [hs.linked.told r o ho] at hid
    cases r with
    | allocated h n =>
      cases hid
      have hlt := live_allocated_iff.1 (.of_object? ho)
      exact ⟨h, hs.linked.resolve_eq_ok_iff.2 ⟨hlt, rfl⟩⟩
    | loose n => cases hid
  unshared := hs.scoped.unshared
  inHeap c hc := hc.exists_inHeap hs.linked.toConsistent
  oneClosure c c' hc hc' hsame := by
    have href : c.ref = c'.ref := hsame.elim id fun hslots =>
      hs.scoped.unshared c.ref c'.ref c.slots hc.slotsId? (hslots ▸ hc'.slotsId?)
    exact hc.eq_of_ref_eq hc' href
  names h v := Closure.exists_ofValue?_iff hs.linked.toConsistent
  ofValue h v c := Closure.ofValue?_eq_some_iff hs.linked.toConsistent
  made r id hid := by
    obtain ⟨f, hf⟩ := hasFunction_iff.1 (hs.scoped.slots r id hid)
    obtain ⟨g, hmade, hgf⟩ := hs.exists_madeWith hid hf
    exact ⟨f, g, hf, hmade, hmade.isConstructor_eq, hgf⟩

/-- Where all the ways to a function lead to the same one, it is found through its value. -/
theorem Reachable.ofValue?_of_inHeap (hs : s.Reachable) {c : Closure}
    (hchanges : Changes (fun _ => True) True s s') (hc : c.InHeap s' h) :
    Closure.ofValue? s' h c.value = some c :=
  (Closure.ofValue?_eq_some_iff (hs.linked.toConsistent.changes hchanges)).2 ⟨rfl, hc⟩

theorem Reachable.givesOut (hs : s.Reachable) : s.GivesOut where
  allocate h o id r s' hfits hok := by
    obtain ⟨hh, ho, hslots⟩ := hfits
    have hmoves : Moves (Changes (fun _ => True) True) (Effect.allocate h o) s _ :=
      Effect.changes_allocate hh ho hslots
    obtain ⟨-, hid, hr⟩ := hmoves.of_ok hok
    exact ⟨resolve_eq_ok_iff.2 hid, hr⟩
  createObject h p id r s' hfits hok := by
    have hmoves : Moves (Changes (fun _ => True) True) (Effect.createObject h p) s _ :=
      Effect.changes_createObject p hfits
    obtain ⟨-, hid, hr⟩ := hmoves.of_ok hok
    exact ⟨resolve_eq_ok_iff.2 hid, hr⟩
  createFunction h p d thisMode scope privateScope realm c s' hfits hok := by
    obtain ⟨hh, hscope, -⟩ := hfits
    have hmoves : Moves (Changes (fun _ => True) True)
        (Closure.create h p d thisMode scope privateScope realm) s _ :=
      Closure.changes_create hh hscope trivial
    obtain ⟨hchanges, hin, hr⟩ := hmoves.of_ok hok
    exact ⟨hs.ofValue?_of_inHeap hchanges hin, hr⟩
  instantiate h context d c s' hfits hok := by
    obtain ⟨hh, hscope, -⟩ := hfits
    have hmoves : Moves (Changes (fun _ => True) True) (Closure.instantiate h context d) s _ :=
      Closure.changes_instantiate_of_made hh hscope trivial
    obtain ⟨hchanges, hin, hr⟩ := hmoves.of_ok hok
    exact ⟨hs.ofValue?_of_inHeap hchanges hin, hr⟩

theorem Reachable.kept (hs : s.Reachable) {ops : List Operation}
    (hfits : Operation.FitAll s ops) : s.Kept ops (Operation.performAll s ops) := by
  have hchanges : Changes (fun _ => True) True s (Operation.performAll s ops) :=
    (Steps.performAll hfits).changes
  have hs' := hs.linked.toConsistent.changes hchanges
  exact {
    heapSize := hchanges.grows.heapSize
    handleCount := fun h => by
      rw [hs.linked.handleCount_eq, hs'.handleCount_eq]
      exact hchanges.grows.heapSize h
    resolve := fun h id r hr =>
      resolve_eq_ok_iff.2 (hchanges.grows.handles h id r (resolve_eq_ok_iff.1 hr))
    object := fun r hr hne => by
      have hspares := Operation.spares_performAll hs hfits hr hne
      exact ⟨hspares.object, hspares.slots?_eq (hs.scoped.present hr)⟩
    told := fun r o o' ho ho' => (hs'.told r o' ho').trans (hs.linked.told r o ho).symm
    plain := fun r hr hf => by
      have horigin := hs.scoped.slots?_origin hchanges hr
      rw [hf] at horigin
      exact Option.map_eq_none_iff.1 horigin
    slotsId := fun r hr => hchanges.slotsId?_eq hr
    function := fun r f hf => by
      obtain ⟨id, hid, hf⟩ := Option.bind_eq_some_iff.1 hf
      obtain ⟨g, hg, hfg⟩ := hchanges.becomes hf
      have hid' := (hchanges.slotsId?_eq (.of_slotsId? hid)).trans hid
      exact ⟨g, (slots?_of_slotsId? hid').trans hg, hfg⟩
    ofValue := fun h id hid => by
      rw [hs.linked.handleCount_eq] at hid
      exact Closure.ofValue?_of_changes hs.linked.toConsistent hs' hchanges hid }

/-- **A handle means the same object forever.** In every reachable store the handles of a heap are
the numbers of its objects, each names the object that was told it, and what is given out with a new
object leads to it. Whatever is done afterwards, each handle goes on to name the object that it
named, and a function goes on to be found with the slots that it was made with. Only what is done to
an object makes it another. -/
theorem handles_mean_same_objects (hs : s.Reachable) :
    s.Handles ∧ s.GivesOut ∧
      ∀ ops, Operation.FitAll s ops → s.Kept ops (Operation.performAll s ops) :=
  ⟨hs.handles, hs.givesOut, fun _ hfits => hs.kept hfits⟩

/-- Two heaps with a realm each, and an asynchronous function in the first. -/
def functionInFirstHeap : List Operation :=
  let first := Context.forScript (Realm.next (pushHeap (pushHeap {})) 0) false
  [.newHeap, .newHeap, .createRealm 0, .createRealm 1,
    .instantiate 0 first (.ofParts 0 (some "f") [] [] .async)]

/-- The function, as the one who has made it has it. -/
def inFirstHeap : Closure := ⟨7, .allocated 0 7, ⟨0⟩⟩

/-- The function is made a constructor and a method, and objects come into both heaps. The second
heap too has an object with the number of the function afterwards. -/
def equipFunction : List Operation :=
  [.makeConstructor inFirstHeap 0 0, .allocate 1 {}, .makeMethod inFirstHeap 3,
    .reparent 0 2 (some 8), .setExtensible (.allocated 1 7) false]

/-- The number goes on to mean the function in the first heap and means none in the second. The
prototype of functions is as it was. -/
theorem handles_mean_same_objects_equipFunction :
    let s := Operation.performAll {} functionInFirstHeap
    let s' := Operation.performAll s equipFunction
    s.Reachable ∧ Operation.FitAll s equipFunction ∧
      Closure.ofValue? s 0 (.object 7) = some inFirstHeap ∧
      Closure.ofValue? s' 0 (.object 7) = some inFirstHeap ∧
      Closure.ofValue? s' 1 (.object 7) = none ∧ s'.Live (.allocated 1 7) ∧
      s'.object? (.allocated 0 1) = s.object? (.allocated 0 1) ∧
      ∃ f g, s.slots? inFirstHeap.ref = some f ∧ s'.slots? inFirstHeap.ref = some g ∧
        f.Becomes g ∧ f.isConstructor = false ∧ g.isConstructor = true := by
  intro s s'
  have hs : s.Reachable := Reachable.performAll (by decide +kernel)
  have hfits : Operation.FitAll s equipFunction := by decide +kernel
  obtain ⟨-, -, hkept⟩ := handles_mean_same_objects hs
  have hk : s.Kept equipFunction s' := hkept equipFunction hfits
  have hfound : Closure.ofValue? s 0 (.object 7) = some inFirstHeap := by decide +kernel
  have hlive : s.Live (.allocated 0 1) := by decide +kernel
  have hbefore : (s.slots? inFirstHeap.ref).map FunctionSlots.isConstructor = some false := by
    decide +kernel
  have hafter : (s'.slots? inFirstHeap.ref).map FunctionSlots.isConstructor = some true := by
    decide +kernel
  obtain ⟨f, hf, hfc⟩ := Option.map_eq_some_iff.1 hbefore
  obtain ⟨g, hg, hfg⟩ := hk.function _ f hf
  rw [hg] at hafter
  refine ⟨hs, hfits, hfound, (hk.ofValue 0 7 (by decide +kernel)).trans hfound, by decide +kernel,
    by decide +kernel, (hk.object _ hlive (by decide)).1, f, g, hf, hg, hfg, hfc,
    Option.some.inj hafter⟩

end Store

end FunctionObjects
