import FunctionObjects.Proofs.Prototype.Chains
import FunctionObjects.Proofs.Realm.Creation

/-!
# What an operation leaves alone

An operation is about one object at most, its target, and makes new ones. All other objects are
after it what they were before it, however it ends, and so are the slots of those that are functions
(`Operation.spares`). Elementary changes do not show this, as they do not say which object is
replaced. So the effects are gone through once more, from the point of view of one object:
`Spares r s s'` says that the object at `r` and its slots are the same in both stores.
-/

namespace FunctionObjects

open Store

variable {α β : Type} {s s' : Store} {r : ObjectRef}

/-- There is an object at the place, and if it is a function, there are its slots. -/
structure Store.Present (s : Store) (r : ObjectRef) : Prop where
  live : s.Live r
  slots : ∀ id, s.slotsId? r = some id → s.HasFunction id

theorem Store.Scoped.present (hs : s.Scoped) (hr : s.Live r) : s.Present r := ⟨hr, hs.slots r⟩

/-- The object at a place is the same in both stores, and so are its slots. The heaps are
remembered, since a new object comes behind all that there are only where there is a heap. -/
structure Store.Spares (r : ObjectRef) (s s' : Store) : Prop where
  object : s'.object? r = s.object? r
  function : ∀ id f, s.slotsId? r = some id → s.function? id = some f → s'.function? id = some f
  hasHeap : ∀ h, s.HasHeap h → s'.HasHeap h

namespace Store.Spares

theorem refl (r : ObjectRef) (s : Store) : Spares r s s := ⟨rfl, fun _ _ _ => id, fun _ => id⟩

theorem slotsId? (h : Spares r s s') : s'.slotsId? r = s.slotsId? r := by
  rw [Store.slotsId?, h.object, Store.slotsId?]

theorem trans {s₁ s₂ s₃ : Store} (h : Spares r s₁ s₂) (h' : Spares r s₂ s₃) : Spares r s₁ s₃ :=
  ⟨h'.object.trans h.object,
    fun id f hid hf => h'.function id f (h.slotsId?.trans hid) (h.function id f hid hf),
    fun i hi => h'.hasHeap i (h.hasHeap i hi)⟩

/-- Where no slots are written, only the objects matter. -/
theorem of_functions (hobject : s'.object? r = s.object? r)
    (hfunctions : s'.functions = s.functions)
    (hheap : ∀ h, s.HasHeap h → s'.HasHeap h) : Spares r s s' :=
  ⟨hobject, fun id f _ hf => by rwa [function?, hfunctions], hheap⟩

theorem present (h : Spares r s s') (hr : s.Present r) : s'.Present r := by
  refine ⟨?_, fun id hid => ?_⟩
  · rw [Live, h.object]
    exact hr.live
  · rw [h.slotsId?] at hid
    obtain ⟨f, hf⟩ := hasFunction_iff.1 (hr.slots id hid)
    exact .of_function? (h.function id f hid hf)

theorem slots?_eq (h : Spares r s s') (hr : s.Present r) : s'.slots? r = s.slots? r := by
  rw [slots?, h.slotsId?, slots?]
  cases hid : s.slotsId? r with
  | none => rfl
  | some id =>
    obtain ⟨f, hf⟩ := hasFunction_iff.1 (hr.slots id hid)
    simp [hf, h.function id f hid hf]

theorem bind {act : Effect α} {f : α → Effect β} {Q : α → Store → Prop} {Q' : β → Store → Prop}
    (h : Moves (Spares r) act s Q)
    (hf : ∀ a s', Spares r s s' → Q a s' → Moves (Spares r) (f a) s' Q') :
    Moves (Spares r) (act >>= f) s Q' :=
  Moves.bind (fun _ _ _ => .trans) h hf

theorem seq {act : Effect Unit} {act' : Effect β} {Q' : β → Store → Prop}
    (h : Moves (Spares r) act s fun _ _ => True)
    (h' : ∀ s', Spares r s s' → Moves (Spares r) act' s' Q') :
    Moves (Spares r) (act >>= fun _ => act') s Q' :=
  bind h fun _ s' hs _ => h' s' hs

end Store.Spares

namespace Effect

/-! ### Effects on objects -/

theorem spares_resolve (h : HeapId) (id : ObjectId) :
    Moves (Spares r) (resolve h id) s fun x _ => s.get? h id = some x := by
  unfold Moves
  cases hid : s.get? h id with
  | some x =>
    rw [resolve_of_some hid]
    exact ⟨.refl r s, rfl⟩
  | none =>
    rw [resolve_of_none hid]
    exact .refl r s

theorem spares_resolve_option (h : HeapId) (id : Option ObjectId) :
    Moves (Spares r) (id.mapM (resolve h)) s fun _ _ => True := by
  cases id with
  | none => exact .pure (.refl r s) trivial
  | some id => exact Spares.bind (spares_resolve h id) fun _ s' _ _ => .pure (.refl r s') trivial

/-- A new object comes where there was none. -/
theorem spares_allocate {h : HeapId} (hr : s.Present r) (hh : s.HasHeap h) (o : Object) :
    Moves (Spares r) (allocate h o) s fun new _ => new.2 ≠ r := by
  have hne : s.nextObject h ≠ r := by
    rintro rfl
    exact not_live_nextObject s h hr.live
  refine ⟨.of_functions ?_ rfl fun i hi => ?_, hne⟩
  · rw [object?_pushObject s h _ r hh, if_neg hne.symm]
  · simpa [HasHeap, pushObject] using hi

theorem spares_replaceObject {x : ObjectRef} (hx : x ≠ r)
    (f : Store → Except ObjectError Object) :
    Moves (Spares r) (replaceObject x f) s fun _ _ => True := by
  unfold Moves replaceObject
  cases f s with
  | ok o =>
    refine ⟨.of_functions ?_ ?_ fun i => (hasHeap_setObject s x o i).2, trivial⟩
    · rw [object?_setObject, if_neg hx.symm]
    · cases x <;> rfl
  | error e => exact .refl r s

theorem spares_setPrototype {x : ObjectRef} (hx : x ≠ r) (p : Option ObjectRef) :
    Moves (Spares r) (setPrototype x p) s fun _ _ => True :=
  spares_replaceObject hx _

theorem spares_defineProperty {x : ObjectRef} (hx : x ≠ r) (key : String) (d : Descriptor) :
    Moves (Spares r) (defineProperty x key d) s fun _ _ => True :=
  spares_replaceObject hx _

theorem spares_createObject {h : HeapId} (hr : s.Present r) (hh : s.HasHeap h)
    (p : Option ObjectId) :
    Moves (Spares r) (createObject h p) s fun new _ => new.2 ≠ r := by
  refine Spares.bind (spares_resolve_option h p) fun q s₁ h₁ _ => ?_
  refine Spares.bind (spares_allocate (h₁.present hr) (h₁.hasHeap h hh) {})
    fun ⟨id, x⟩ s₂ _ hx => ?_
  exact Spares.seq (spares_setPrototype hx q) fun s₃ _ => .pure (.refl r s₃) hx

theorem spares_reparent {h : HeapId} {id : ObjectId}
    (hne : ∀ x, s.get? h id = some x → x ≠ r) (parent : Option ObjectId) :
    Moves (Spares r) (reparent h id parent) s fun _ _ => True := by
  refine Spares.bind (spares_resolve h id) fun o s₁ _ ho => ?_
  exact Spares.bind (spares_resolve_option h parent) fun p _ _ _ =>
    spares_setPrototype (hne o ho) p

/-! ### Effects on slots -/

/-- New slots come where there were none. -/
theorem spares_newFunction (hr : s.Present r) (f : FunctionSlots) :
    Moves (Spares r) (newFunction f) s fun id s' => s'.slotsId? r ≠ some id := by
  have hne : ∀ id, s.slotsId? r = some id → id ≠ s.nextFunction := by
    rintro id hid rfl
    exact not_hasFunction_nextFunction s (hr.slots _ hid)
  have hobject := object?_pushFunction s f r
  refine ⟨⟨hobject, fun id g hid hg => ?_, fun _ => id⟩, fun hnew => ?_⟩
  · rw [function?_pushFunction, if_neg (hne id hid), hg]
  · rw [slotsId?, hobject] at hnew
    exact hne _ hnew rfl

theorem spares_updateFunction {id : FunctionId} (hid : s.slotsId? r ≠ some id)
    (f : FunctionSlots → FunctionSlots) :
    Moves (Spares r) (updateFunction id f) s fun _ _ => True := by
  refine ⟨⟨by cases r <;> rfl, fun id' g hid' hg => ?_, fun _ => fun h => h⟩, trivial⟩
  have hne : id' ≠ id := by
    rintro rfl
    exact hid hid'
  rw [function?_modifyFunction, if_neg hne, hg]

/-! ### Effects on scopes -/

theorem spares_newScope (scope : Scope) :
    Moves (Spares r) (newScope scope) s fun _ _ => True :=
  ⟨.of_functions (object?_pushScope s scope r) rfl fun _ => id, trivial⟩

theorem spares_updateScope (e : ScopeId) (f : Scope → Except Error Scope) :
    Moves (Spares r) (updateScope e f) s fun _ _ => True := by
  unfold Moves updateScope
  cases f (s.scope e) with
  | ok scope => exact ⟨.of_functions (by cases r <;> rfl) rfl fun _ => id, trivial⟩
  | error cause => exact .refl r s

end Effect

/-! ### Functions -/

namespace Closure

open Effect

/-- Neither the object nor the slots of a new function are those of another one. -/
theorem spares_allocate {h : HeapId} (hr : s.Present r) (hh : s.HasHeap h) (f : FunctionSlots) :
    Moves (Spares r) (allocate h f) s fun c s' => c.ref ≠ r ∧ s'.slotsId? r ≠ some c.slots := by
  refine Spares.bind (spares_newFunction hr f) fun id s₁ h₁ hid => ?_
  refine Spares.bind (Effect.spares_allocate (h₁.present hr) (h₁.hasHeap h hh) _)
    fun ⟨_, x⟩ s₂ h₂ hx => .pure (.refl r s₂) ⟨hx, ?_⟩
  rwa [h₂.slotsId?]

theorem spares_create {h : HeapId} (hr : s.Present r) (hh : s.HasHeap h) (prototype : ObjectId)
    (d : FunctionDefinition) (thisMode : ThisMode) (scope : ScopeId)
    (privateScope : Option PrivateScopeId) (realm : Realm) :
    Moves (Spares r) (create h prototype d thisMode scope privateScope realm) s
      fun c s' => c.ref ≠ r ∧ s'.slotsId? r ≠ some c.slots := by
  refine Spares.bind (spares_resolve h prototype) fun p s₁ h₁ _ => ?_
  refine Spares.bind (spares_allocate (h₁.present hr) (h₁.hasHeap h hh) _) fun c s₂ _ hc => ?_
  refine Spares.seq (spares_setPrototype hc.1 (some p)) fun s₃ h₃ => ?_
  refine Spares.seq (spares_defineProperty hc.1 _ _) fun s₄ h₄ => .pure (.refl r s₄) ?_
  rw [(h₃.trans h₄).slotsId?]
  exact hc

theorem spares_makeConstructor {c : Closure} {h : HeapId} (hr : s.Present r) (hh : s.HasHeap h)
    (hc : c.ref ≠ r) (hslots : s.slotsId? r ≠ some c.slots) (p : ObjectId) :
    Moves (Spares r) (c.makeConstructor h p) s fun _ _ => True := by
  refine Spares.seq (spares_updateFunction hslots _) fun s₁ h₁ => ?_
  refine Spares.bind (spares_createObject (h₁.present hr) (h₁.hasHeap h hh) (some p))
    fun ⟨id, x⟩ s₂ _ hx => ?_
  exact Spares.seq (spares_defineProperty hx _ _) fun _ _ => spares_defineProperty hc _ _

theorem spares_finish {c : Closure} {h : HeapId} (hr : s.Present r) (hh : s.HasHeap h)
    (hc : c.ref ≠ r) (hslots : s.slotsId? r ≠ some c.slots) (species : Species) (i : Intrinsics) :
    Moves (Spares r) (c.finish h species i) s fun _ _ => True := by
  cases species with
  | ordinary => exact spares_makeConstructor hr hh hc hslots i.objectPrototype
  | async => exact .pure (.refl r s) trivial
  | generator =>
    exact Spares.bind (spares_createObject hr hh _) fun ⟨id, _⟩ _ _ _ =>
      spares_defineProperty hc _ _
  | asyncGenerator =>
    exact Spares.bind (spares_createObject hr hh _) fun ⟨id, _⟩ _ _ _ =>
      spares_defineProperty hc _ _

theorem spares_scopeFor (context : Context) (name : String) :
    Moves (Spares r) (scopeFor context name) s fun _ _ => True := by
  unfold scopeFor
  split
  · exact .pure (.refl r s) trivial
  · refine Spares.bind (spares_newScope _) fun own s₁ _ _ => ?_
    exact Spares.seq (spares_updateScope own _) fun s₂ _ => .pure (.refl r s₂) trivial

theorem spares_assemble {h : HeapId} (hr : s.Present r) (hh : s.HasHeap h) (context : Context)
    (d : FunctionDefinition) :
    Moves (Spares r) (assemble h context d) s fun _ _ => True := by
  refine Spares.bind (spares_scopeFor context _) fun scope s₁ h₁ _ => ?_
  refine Spares.bind (spares_create (h₁.present hr) (h₁.hasHeap h hh) _ d _ scope _ _)
    fun c s₂ h₂ hc => ?_
  obtain ⟨hc, hslots⟩ := hc
  refine Spares.seq (spares_defineProperty hc _ _) fun s₃ h₃ => ?_
  rw [← h₃.slotsId?] at hslots
  have h₃ := h₁.trans (h₂.trans h₃)
  refine Spares.seq (spares_finish (h₃.present hr) (h₃.hasHeap _ hh) hc hslots _ _) fun s₄ _ => ?_
  exact .pure (.refl r s₄) trivial

theorem spares_instantiate {h : HeapId} (hr : s.Present r) (hh : s.HasHeap h) (context : Context)
    (d : FunctionDefinition) :
    Moves (Spares r) (instantiate h context d) s fun _ _ => True := by
  refine Spares.bind (spares_assemble hr hh context d) fun ⟨scope, c⟩ s₁ _ _ => ?_
  by_cases hn : (!d.bindingName.isEmpty) = true
  · simp only [hn, if_true]
    exact Spares.seq (spares_updateScope scope _) fun s₂ _ => .pure (.refl r s₂) trivial
  · simp only [hn]
    exact .pure (.refl r s₁) trivial

end Closure

/-! ### Operations -/

namespace Store

/-- The object that an operation is about. -/
def Operation.target? : Operation → Option ObjectRef
  | setPrototype r _ => some r
  | reparent h id _ => some (.allocated h id)
  | defineProperty r _ _ => some r
  | setExtensible r _ => some r
  | setLength c _ => some c.ref
  | setName c _ _ => some c.ref
  | makeConstructor c _ _ => some c.ref
  | makeMethod c _ => some c.ref
  | newHeap | newLoose _ | allocate _ _ | createObject _ _ | createRealm _
  | createFunction _ _ _ _ _ _ _ | instantiate _ _ _ | newScope _ | inScope _ _
  | newPrivateScope _ | declarePrivate _ _ => none

/-- **An operation leaves all objects alone but its target.** -/
theorem Operation.spares (hs : s.Linked) (hscoped : s.Scoped) {op : Operation} (hfits : op.Fits s)
    (hr : s.Live r) (hne : op.target? ≠ some r) : Spares r s (op.perform s) := by
  have htarget : ∀ x, op.target? = some x → x ≠ r := by
    rintro x hx rfl
    exact hne hx
  have hpresent : s.Present r := hscoped.present hr
  have hslots : ∀ c : Closure, s.HasClosure c → c.ref ≠ r → s.slotsId? r ≠ some c.slots :=
    fun c hc hcr hid => hcr (hscoped.unshared c.ref r c.slots hc.slotsId? hid)
  cases op with
  | newHeap =>
    exact .of_functions (object?_pushHeap s r) rfl fun i hi =>
      lt_of_lt_of_le hi (by simp [Operation.perform, pushHeap])
  | newLoose o =>
    refine .of_functions ((object?_pushLoose s o r).trans (if_neg ?_)) rfl fun _ => id
    rintro rfl
    exact absurd (live_loose_iff.1 hr) (Nat.lt_irrefl _)
  | allocate h o => exact (Effect.spares_allocate hpresent hfits.1 o).finalState
  | createObject h p => exact (Effect.spares_createObject hpresent hfits p).finalState
  | setPrototype x p => exact (Effect.spares_setPrototype (htarget x rfl) p).finalState
  | reparent h id p =>
    refine (Effect.spares_reparent (fun x hx => ?_) p).finalState
    obtain ⟨-, rfl⟩ := hs.get?_eq_some_iff.1 hx
    exact htarget _ rfl
  | defineProperty x key d => exact (Effect.spares_defineProperty (htarget x rfl) key d).finalState
  | setExtensible x extensible =>
    exact (Effect.spares_replaceObject (htarget x rfl) _).finalState
  | createRealm h =>
    -- the course of this one is known
    rw [Operation.perform, finalState_of_ok (Realm.create_eq hs hfits)]
    exact .of_functions (object?_extend_old hfits _ hr) rfl fun i hi => hasHeap_extend.2 hi
  | createFunction h p d thisMode scope privateScope realm =>
    exact (Closure.spares_create hpresent hfits.1 p d thisMode scope privateScope realm).finalState
  | instantiate h context d =>
    exact (Closure.spares_instantiate hpresent hfits.1 context d).finalState
  | setLength c length => exact (Effect.spares_defineProperty (htarget _ rfl) _ _).finalState
  | setName c name lead => exact (Effect.spares_defineProperty (htarget _ rfl) _ _).finalState
  | makeConstructor c h p =>
    exact (Closure.spares_makeConstructor hpresent hfits.2 (htarget _ rfl)
      (hslots c hfits.1 (htarget _ rfl)) p).finalState
  | makeMethod c home =>
    exact (Effect.spares_updateFunction (hslots c hfits (htarget _ rfl)) _).finalState
  | newScope outer => exact (Effect.spares_newScope _).finalState
  | inScope e op => exact (Effect.spares_updateScope e _).finalState
  | newPrivateScope outer => exact .of_functions (by cases r <;> rfl) rfl fun _ => id
  | declarePrivate p d =>
    obtain ⟨hheaps, hloose, -, -, hfunctions⟩ := declarePrivate_frame s p d
    refine .of_functions ?_ hfunctions fun i hi => by rwa [HasHeap, Operation.perform, hheaps]
    cases r with
    | allocated h id => simp only [Operation.perform, object?, heap, hheaps]
    | loose n => simp only [Operation.perform, object?, hloose]

/-- So does a series of operations that are about other objects. -/
theorem Operation.spares_performAll (hs : s.Reachable) {ops : List Operation}
    (hfits : FitAll s ops) (hr : s.Live r) (hne : ∀ op ∈ ops, op.target? ≠ some r) :
    Spares r s (performAll s ops) := by
  induction ops generalizing s with
  | nil => exact .refl r s
  | cons op ops ih =>
    have hone : Spares r s (op.perform s) :=
      spares hs.linked hs.scoped hfits.1 hr (hne op List.mem_cons_self)
    have hr' := (hone.present (hs.scoped.present hr)).live
    refine hone.trans (ih (hs.perform op hfits.1) hfits.2 hr' fun op' hop' => ?_)
    exact hne op' (List.mem_cons_of_mem op hop')

end Store

end FunctionObjects
