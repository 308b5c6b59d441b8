import FunctionObjects.Function.Expression
import FunctionObjects.Proofs.Moves
import FunctionObjects.Proofs.Store.Functions
import FunctionObjects.Realm.Creation

/-!
# Effects make changes

Every effect of the library, however it ends, takes the store through a series of elementary
changes. What it must be given for this is what is always at hand where code runs: a heap that
exists, and references to scopes and objects that exist.

Both the effects on objects and those on scopes are gone through here once. Nothing else opens them
to see which changes they make.
-/

namespace FunctionObjects

open Store

variable {α β : Type} {made : FunctionSlots → Prop} {flags : Prop} {s : Store}

/-- An effect after another one makes its changes after those of the first. -/
theorem Store.Changes.bind {act : Effect α} {f : α → Effect β} {Q : α → Store → Prop}
    {Q' : β → Store → Prop} (h : Moves (Changes made flags) act s Q)
    (hf : ∀ a s', Changes made flags s s' → Q a s' → Moves (Changes made flags) (f a) s' Q') :
    Moves (Changes made flags) (act >>= f) s Q' :=
  Moves.bind (fun _ _ _ => .trans) h hf

/-- An effect without result, before another one. -/
theorem Store.Changes.seq {act : Effect Unit} {act' : Effect β} {Q' : β → Store → Prop}
    (h : Moves (Changes made flags) act s fun _ _ => True)
    (h' : ∀ s', Changes made flags s s' → Moves (Changes made flags) act' s' Q') :
    Moves (Changes made flags) (act >>= fun _ => act') s Q' :=
  Store.Changes.bind h fun _ s' hs _ => h' s' hs

namespace Effect

/-! ### Effects on objects -/

theorem resolve_of_some {h : HeapId} {id : ObjectId} {r : ObjectRef} (hr : s.get? h id = some r) :
    resolve h id s = .ok r s := by
  simp [resolve, inspect, Store.resolve, hr, Except.mapError]

theorem resolve_of_none {h : HeapId} {id : ObjectId} (hid : s.get? h id = none) :
    resolve h id s = .error (.refused (.danglingObject id)) s := by
  simp [resolve, inspect, Store.resolve, hid, Except.mapError]

theorem changes_inspect (f : Store → Except Error α) :
    Moves (Changes made flags) (inspect f) s fun _ _ => True := by
  unfold Moves inspect
  cases f s with
  | ok a => exact ⟨.refl, trivial⟩
  | error e => exact .refl

theorem changes_resolve (h : HeapId) (id : ObjectId) :
    Moves (Changes made flags) (resolve h id) s fun r s' => s' = s ∧ s.get? h id = some r := by
  unfold Moves
  cases hr : s.get? h id with
  | some r =>
    rw [resolve_of_some hr]
    exact ⟨.refl, rfl, rfl⟩
  | none => rw [resolve_of_none hr]

/-- What is resolved where there may be nothing to resolve. -/
theorem changes_resolve_option (h : HeapId) (id : Option ObjectId) :
    Moves (Changes made flags) (id.mapM (resolve h)) s fun p s' =>
      s' = s ∧ ∀ q, p = some q → s.Named q := by
  cases id with
  | none => exact .pure .refl ⟨rfl, by simp⟩
  | some id =>
    refine Changes.bind (changes_resolve h id) fun r s' _ hr => ?_
    obtain ⟨rfl, hr⟩ := hr
    refine .pure .refl ⟨rfl, ?_⟩
    rintro q ⟨⟩
    exact .inr ⟨h, id, hr⟩

/-- The handle that is given out names the object that is given out, which is new. -/
theorem changes_allocate {h : HeapId} {o : Object} (hh : s.HasHeap h) (ho : o.IsFresh)
    (hs : o.slots = none) :
    Moves (Changes made flags) (allocate h o) s fun new s' =>
      s'.get? h new.1 = some new.2 ∧ ¬ s.Live new.2 :=
  ⟨.single (.newObject hh ho hs), get?_pushObject_handleCount hh _, not_live_nextObject s h⟩

/-- An object is replaced if the check allows it, and otherwise nothing happens. -/
theorem changes_replaceObject {r : ObjectRef} {f : Store → Except ObjectError Object}
    (hf : ∀ o', f s = .ok o' → ∃ o, s.object? r = some o ∧ Replacement flags s r o o') :
    Moves (Changes made flags) (replaceObject r f) s fun _ _ => True := by
  unfold Moves replaceObject
  cases ho : f s with
  | ok o' =>
    obtain ⟨o, hr, hro⟩ := hf o' ho
    exact ⟨.single (.replace hr hro), trivial⟩
  | error e => exact .refl

theorem changes_updateObject {r : ObjectRef} {f : Object → Except ObjectError Object}
    (hf : ∀ o o', f o = .ok o' → Replacement flags s r o o') :
    Moves (Changes made flags) (updateObject r f) s fun _ _ => True := by
  refine changes_replaceObject fun o' ho' => ?_
  cases ho : s.object? r with
  | none => simp [ho] at ho'
  | some o => exact ⟨o, rfl, hf o o' (by simpa [ho] using ho')⟩

theorem changes_defineProperty (r : ObjectRef) (key : String) (d : Descriptor) :
    Moves (Changes made flags) (defineProperty r key d) s fun _ _ => True :=
  changes_updateObject fun _ _ ho => .define ho

theorem changes_setPrototype {r : ObjectRef} {p : Option ObjectRef}
    (hp : ∀ q, p = some q → s.Named q) :
    Moves (Changes made flags) (setPrototype r p) s fun _ _ => True := by
  refine changes_replaceObject fun o' ho' => ?_
  cases ho : s.object? r with
  | none => simp [withPrototype, ho] at ho'
  | some o => exact ⟨o, rfl, .relink hp ho'⟩

theorem changes_createObject {h : HeapId} (p : Option ObjectId) (hh : s.HasHeap h) :
    Moves (Changes made flags) (createObject h p) s fun new s' =>
      s'.get? h new.1 = some new.2 ∧ ¬ s.Live new.2 := by
  refine Changes.bind (changes_resolve_option h p) fun q s' _ hq => ?_
  obtain ⟨rfl, hq⟩ := hq
  refine Changes.bind (changes_allocate hh ⟨rfl, .nil⟩ rfl) fun ⟨id, r⟩ s₁ hs hnew => ?_
  obtain ⟨hid, hr⟩ := hnew
  refine Changes.seq (changes_setPrototype fun q' hq' => ?_) fun s₂ h₂ => ?_
  · exact hs.grows.named (hq q' hq')
  · exact .pure .refl ⟨h₂.grows.handles h id r hid, hr⟩

theorem changes_reparent (h : HeapId) (id : ObjectId) (parent : Option ObjectId) :
    Moves (Changes made flags) (reparent h id parent) s fun _ _ => True := by
  refine Changes.bind (changes_resolve h id) fun o s' _ ho => ?_
  obtain ⟨rfl, -⟩ := ho
  refine Changes.bind (changes_resolve_option h parent) fun p s' _ hp => ?_
  obtain ⟨rfl, hp⟩ := hp
  exact changes_setPrototype hp

/-! ### Effects on scopes -/

theorem changes_newScope {outer : Option ScopeId} (ho : ∀ e, outer = some e → s.HasScope e) :
    Moves (Changes made flags) (newScope { outer }) s fun e s' => s'.HasScope e := by
  refine ⟨.single (.newScope ho), ?_⟩
  simp [HasScope, nextScope, pushScope]

theorem changes_updateScope {e : ScopeId} (op : Scope.Operation) (he : s.HasScope e) :
    Moves (Changes made flags) (updateScope e fun scope => op.apply scope) s fun _ _ => True := by
  simp only [Moves, updateScope]
  cases ho : op.apply (s.scope e) with
  | ok scope => exact ⟨.single (.inScope he ho), trivial⟩
  | error cause => exact .refl

end Effect

/-! ### Creation of a realm -/

namespace Realm

open Effect

theorem changes_createPrototype {h : HeapId} (parent : ObjectId) (className : String)
    (hh : s.HasHeap h) :
    Moves (Changes made flags) (createPrototype h parent className) s fun _ _ => True := by
  refine Changes.bind (changes_createObject (some parent) hh) fun ⟨id, r⟩ s' _ _ => ?_
  refine Changes.seq (changes_updateObject fun o o' ho => ?_) fun _ _ => .pure .refl trivial
  cases ho
  exact .setClass className

theorem changes_linkGenerators (h : HeapId) (functions instances : ObjectId) :
    Moves (Changes made flags) (linkGenerators h functions instances) s fun _ _ => True := by
  refine Changes.bind (changes_resolve h functions) fun f s₁ _ _ => ?_
  refine Changes.bind (changes_resolve h instances) fun i s₂ _ _ => ?_
  exact Changes.seq (changes_defineProperty _ _ _) fun _ _ => changes_defineProperty _ _ _

theorem changes_createGlobalScope :
    Moves (Changes made flags) createGlobalScope s fun e s' => s'.HasScope e := by
  refine Changes.bind (changes_newScope (by simp)) fun e s₁ _ he => ?_
  refine Changes.seq (changes_updateScope (.declareImmutable _ _) he) fun s₂ h₂ => ?_
  have he₂ := h₂.grows.hasScope he
  refine Changes.seq (changes_updateScope (.initializeBinding _ _) he₂) fun s₃ h₃ => ?_
  exact .pure .refl (h₃.grows.hasScope he₂)

theorem changes_nextId : Moves (Changes made flags) nextId s fun _ _ => True :=
  ⟨.single .issueRealm, trivial⟩

theorem changes_create {h : HeapId} (hh : s.HasHeap h) :
    Moves (Changes made flags) (create h) s fun _ _ => True := by
  -- the heap is there all the time, and this is all that a new prototype object needs
  have proto : ∀ {s'} (parent : ObjectId) (name : String), Changes made flags s s' →
      Moves (Changes made flags) (createPrototype h parent name) s' fun _ _ => True :=
    fun parent name hs => changes_createPrototype parent name (hs.grows.hasHeap hh)
  refine Changes.bind (changes_allocate hh ⟨rfl, .nil⟩ rfl) fun ⟨o, _⟩ s₁ h₁ _ => ?_
  refine Changes.bind (proto o _ h₁) fun f s₂ h₂ _ => ?_
  refine Changes.bind (proto f _ (h₁.trans h₂)) fun a s₃ h₃ _ => ?_
  have h₃ := h₁.trans (h₂.trans h₃)
  refine Changes.bind (proto o _ h₃) fun g s₄ h₄ _ => ?_
  refine Changes.bind (proto f _ (h₃.trans h₄)) fun gf s₅ h₅ _ => ?_
  refine Changes.seq (changes_linkGenerators h gf g) fun s₆ h₆ => ?_
  have h₆ := h₃.trans (h₄.trans (h₅.trans h₆))
  refine Changes.bind (proto o _ h₆) fun ag s₇ h₇ _ => ?_
  refine Changes.bind (proto f _ (h₆.trans h₇)) fun agf s₈ h₈ _ => ?_
  refine Changes.seq (changes_linkGenerators h agf ag) fun s₉ _ => ?_
  refine Changes.bind changes_createGlobalScope fun e s₁₀ _ _ => ?_
  exact Changes.bind changes_nextId fun _ _ _ _ => .pure .refl trivial

end Realm

/-! ### Creation of a function -/

namespace Closure

open Effect

theorem changes_setLength (c : Closure) (length : Nat) :
    Moves (Changes made flags) (c.setLength length) s fun _ _ => True :=
  changes_defineProperty _ _ _

theorem changes_setName (c : Closure) (name : FunctionName) (lead : Option String) :
    Moves (Changes made flags) (c.setName name lead) s fun _ _ => True :=
  changes_defineProperty _ _ _

theorem changes_setInstancePrototype (c : Closure) (prototype : ObjectId) :
    Moves (Changes made flags) (c.setInstancePrototype prototype) s fun _ _ => True :=
  changes_defineProperty _ _ _

/-- All the ways to the function that is given out lead to its object, which is new. -/
theorem changes_allocate {h : HeapId} {f : FunctionSlots} (hh : s.HasHeap h) (hm : made f)
    (he : s.HasScope f.scope) :
    Moves (Changes made flags) (allocate h f) s fun c s' => c.InHeap s' h ∧ ¬ s.Live c.ref := by
  let o : Object := { className := f.species.className, slots := some s.nextFunction }
  have hchange : Change made flags s _ := .newFunction (o := o) hh ⟨rfl, .nil⟩ rfl hm he
  refine ⟨.single hchange, ⟨?_, ?_⟩, not_live_nextObject s h⟩
  · exact get?_pushObject_handleCount (s := s.pushFunction f) hh _
  · refine hasClosure_iff.2 ⟨{ o with id := some (s.handleCount h) }, ?_, rfl, rfl⟩
    exact (object?_pushObject (s.pushFunction f) h _ _ hh).trans (if_pos rfl)

theorem changes_create {h : HeapId} {prototype : ObjectId} {d : FunctionDefinition}
    {thisMode : ThisMode} {scope : ScopeId} {privateScope : Option PrivateScopeId} {realm : Realm}
    (hh : s.HasHeap h) (he : s.HasScope scope)
    (hm : made { definition := d, scope, privateScope, thisMode, realm }) :
    Moves (Changes made flags) (create h prototype d thisMode scope privateScope realm) s
      fun c s' => c.InHeap s' h ∧ ¬ s.Live c.ref := by
  refine Changes.bind (changes_resolve h prototype) fun p s' _ hp => ?_
  obtain ⟨rfl, hp⟩ := hp
  refine Changes.bind (changes_allocate hh hm he) fun c s₁ h₁ hc => ?_
  obtain ⟨hc, hnew⟩ := hc
  refine Changes.seq (changes_setPrototype ?_) fun s₂ h₂ => ?_
  · rintro q ⟨⟩
    exact .inr ⟨h, prototype, h₁.grows.handles h prototype p hp⟩
  · exact Changes.seq (changes_setLength _ _) fun _ h₃ =>
      .pure .refl ⟨hc.changes (h₂.trans h₃), hnew⟩

theorem changes_makeConstructor {h : HeapId} (c : Closure) (p : ObjectId) (hh : s.HasHeap h) :
    Moves (Changes made flags) (c.makeConstructor h p) s fun _ _ => True := by
  have hmark : Moves (Changes made flags)
      (updateFunction c.slots fun f => { f with isConstructor := true }) s
      fun _ _ => True := ⟨.single (.markConstructor c.slots), trivial⟩
  refine Changes.seq hmark fun s₁ h₁ => ?_
  have hh₁ := h₁.grows.hasHeap hh
  refine Changes.bind (changes_createObject (some p) hh₁) fun ⟨id, r⟩ s₂ _ _ => ?_
  exact Changes.seq (changes_defineProperty _ _ _) fun _ _ => changes_setInstancePrototype c id

theorem changes_makeMethod (c : Closure) (home : ObjectId) :
    Moves (Changes made flags) (c.makeMethod home) s fun _ _ => True :=
  ⟨.single (.setHome c.slots home), trivial⟩

theorem changes_finish {h : HeapId} (c : Closure) (species : Species) (i : Intrinsics)
    (hh : s.HasHeap h) : Moves (Changes made flags) (c.finish h species i) s fun _ _ => True := by
  cases species with
  | ordinary => exact changes_makeConstructor c i.objectPrototype hh
  | async => exact .pure .refl trivial
  | generator =>
    refine Changes.bind (changes_createObject (some i.generatorPrototype) hh)
      fun ⟨id, _⟩ _ _ _ => ?_
    exact changes_setInstancePrototype c id
  | asyncGenerator =>
    refine Changes.bind (changes_createObject (some i.asyncGeneratorPrototype) hh)
      fun ⟨id, _⟩ _ _ _ => ?_
    exact changes_setInstancePrototype c id

end Closure

/-- The scope that the code of a function will see if it is made now. -/
def Store.scopeFor (s : Store) (context : Context) (name : String) : ScopeId :=
  if name.isEmpty then context.scope else s.nextScope

namespace Closure

open Effect

theorem changes_scopeFor {context : Context} (name : String) (he : s.HasScope context.scope) :
    Moves (Changes made flags) (scopeFor context name) s fun e s' =>
      e = s.scopeFor context name ∧ s'.HasScope e := by
  unfold scopeFor Store.scopeFor
  split
  · exact .pure .refl ⟨rfl, he⟩
  · have houter : ∀ e, some context.scope = some e → s.HasScope e := by
      rintro e ⟨⟩
      exact he
    refine Changes.bind (changes_newScope houter).run fun own s₁ _ hrun => ?_
    obtain ⟨hnew, hown⟩ := hrun
    cases hnew
    refine Changes.seq (changes_updateScope (.declareImmutable name false) hown) fun s₂ h₂ => ?_
    exact .pure .refl ⟨rfl, h₂.grows.hasScope hown⟩

end Closure

/-- The slots are those of a function that was made in a context: with the realm and the private
scope of the context, and treating `this` as a function of its definition does there. -/
structure FunctionSlots.MadeIn (context : Context) (f : FunctionSlots) : Prop where
  thisMode : f.thisMode = thisModeFor f.definition context
  realm : f.realm = context.realm
  privateScope : f.privateScope = context.privateScope

/-- In which scope of a context a function is made does not matter. -/
theorem FunctionSlots.MadeIn.of_inScope {context : Context} {f : FunctionSlots} {e : ScopeId}
    (h : f.MadeIn (context.inScope e)) : f.MadeIn context :=
  ⟨h.thisMode, h.realm, h.privateScope⟩

/-- The slots of the function that a definition makes in a context, if its code sees the scope. -/
def FunctionSlots.ofContext (context : Context) (d : FunctionDefinition) (scope : ScopeId) :
    FunctionSlots where
  definition := d
  scope := scope
  privateScope := context.privateScope
  thisMode := thisModeFor d context
  realm := context.realm

namespace Closure

open Effect

theorem changes_assemble {h : HeapId} {context : Context} {d : FunctionDefinition}
    (hh : s.HasHeap h) (he : s.HasScope context.scope)
    (hm : made (.ofContext context d (s.scopeFor context d.bindingName))) :
    Moves (Changes made flags) (assemble h context d) s fun r s' =>
      s'.HasScope r.1 ∧ r.2.InHeap s' h ∧ ¬ s.Live r.2.ref := by
  refine Changes.bind (changes_scopeFor d.bindingName he) fun scope s₁ h₁ hscope => ?_
  obtain ⟨rfl, hscope⟩ := hscope
  have hh₁ := h₁.grows.hasHeap hh
  refine Changes.bind (changes_create hh₁ hscope hm) fun c s₂ h₂ hc => ?_
  obtain ⟨hc, hnew⟩ := hc
  refine Changes.seq (changes_setName c _ _) fun s₃ h₃ => ?_
  have hh₃ := h₃.grows.hasHeap (h₂.grows.hasHeap hh₁)
  refine Changes.seq (changes_finish c d.species context.realm.intrinsics hh₃) fun s₄ h₄ => ?_
  have h₄ : Changes _ _ s₂ s₄ := h₃.trans h₄
  have hscope₄ := h₄.grows.hasScope (h₂.grows.hasScope hscope)
  refine .pure .refl ⟨hscope₄, hc.changes h₄, fun hr => ?_⟩
  exact hnew (h₁.grows.live hr)

/-- The evaluation of a function expression makes changes only, and it is known with which slots it
makes a function. -/
theorem changes_instantiate_of_made {h : HeapId} {context : Context} {d : FunctionDefinition}
    (hh : s.HasHeap h) (he : s.HasScope context.scope)
    (hm : made (.ofContext context d (s.scopeFor context d.bindingName))) :
    Moves (Changes made flags) (instantiate h context d) s
      fun c s' => c.InHeap s' h ∧ ¬ s.Live c.ref := by
  refine Changes.bind (changes_assemble hh he hm) fun ⟨scope, c⟩ s₁ _ hmade => ?_
  obtain ⟨hscope, hc, hnew⟩ := hmade
  by_cases hn : (!d.bindingName.isEmpty) = true
  · simp only [hn, if_true]
    refine Changes.seq ?_ fun _ h₂ => .pure .refl ⟨hc.changes h₂, hnew⟩
    exact changes_updateScope (.initializeBinding d.bindingName c.value) hscope
  · simp only [hn]
    exact .pure .refl ⟨hc, hnew⟩

/-- The one function that is made is made in the context. -/
theorem changes_instantiate {h : HeapId} {context : Context} (d : FunctionDefinition)
    (hh : s.HasHeap h) (he : s.HasScope context.scope) :
    Moves (Changes (FunctionSlots.MadeIn context) flags) (instantiate h context d) s
      fun c s' => c.InHeap s' h ∧ ¬ s.Live c.ref :=
  changes_instantiate_of_made hh he ⟨rfl, rfl, rfl⟩

end Closure

end FunctionObjects
