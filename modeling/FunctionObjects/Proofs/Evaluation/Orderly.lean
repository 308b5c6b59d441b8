import FunctionObjects.Proofs.Evaluation.Additions
import FunctionObjects.Proofs.Scope.Chains

/-!
# Orderly agents, early and late

An agent is orderly if all that it refers to exists, if prototype chains and chains of scopes end,
and if its realms were created. Every agent is, and it is still orderly after an evaluation, and
after operations on its store in between. An evaluation also leaves all that there was as it was
(`Agent.Later`). So what is known of an orderly agent is not lost while it goes on: scopes and
functions are the same, and in the scopes that there are every name means what it meant.

The agent in a block is later than the one before the block. Its running context differs from the
one outside in the scope only, and that scope binds nothing, so no name changes its meaning at the
beginning of a block.
-/

namespace FunctionObjects

namespace Store

variable {made : List Creation} {s s' : Store} {h : HeapId} {r : ObjectRef}

/-- The objects that there were are as they were. -/
theorem Adds.object?_of_live (hs : Adds h s made s') (hr : s.Live r) :
    s'.object? r = s.object? r := by
  cases r with
  | loose n => rw [object?, hs.loose, object?]
  | allocated i id =>
    rw [object?, object?]
    by_cases hi : i = h
    · subst hi
      rw [hs.objects, Array.getElem?_append_left (live_allocated_iff.1 hr)]
    · rw [hs.otherHeaps i hi]

/-- So are the slots of those that are functions. -/
theorem Adds.slotsId?_of_slotsId? (hs : Adds h s made s') {id : FunctionId}
    (hid : s.slotsId? r = some id) : s'.slotsId? r = some id := by
  rw [slotsId?, hs.object?_of_live (.of_slotsId? hid)]
  exact hid

theorem Adds.function?_of_function? (hs : Adds h s made s') {id : FunctionId} {f : FunctionSlots}
    (hf : s.function? id = some f) : s'.function? id = some f := by
  rw [function?, hs.functions, Array.getElem?_append_left (HasFunction.of_function? hf)]
  exact hf

end Store

namespace Agent

open Store Evaluation

variable {a a' a'' : Agent} {c : Context} {settings : Settings}

/-- An agent as it may be. -/
structure Orderly (a : Agent) : Prop where
  sound : a.Sound
  genuine : a.Genuine
  nested : a.store.Nested

/-- The second agent is orderly, and it has the scopes and functions of the first, as they are
there. -/
structure Later (a a' : Agent) : Prop where
  orderly : a'.Orderly
  heap : a'.heap = a.heap
  scopes : ∀ e, a.store.HasScope e → a'.store.HasScope e ∧ a'.store.scope e = a.store.scope e
  slotsId : ∀ r id, a.store.slotsId? r = some id → a'.store.slotsId? r = some id
  functions : ∀ id f, a.store.function? id = some f → a'.store.function? id = some f

namespace Later

theorem refl (ha : a.Orderly) : Later a a :=
  ⟨ha, rfl, fun _ he => ⟨he, rfl⟩, fun _ _ hid => hid, fun _ _ hf => hf⟩

theorem trans (h : Later a a') (h' : Later a' a'') : Later a a'' := by
  refine ⟨h'.orderly, h'.heap.trans h.heap, fun e he => ?_, fun r id hid => ?_, fun id f hf => ?_⟩
  · obtain ⟨he', hscope⟩ := h.scopes e he
    obtain ⟨he'', hscope'⟩ := h'.scopes e he'
    exact ⟨he'', hscope'.trans hscope⟩
  · exact h'.slotsId r id (h.slotsId r id hid)
  · exact h'.functions id f (h.functions id f hf)

theorem slots? (h : Later a a') {r : ObjectRef} {f : FunctionSlots}
    (hf : a.store.slots? r = some f) : a'.store.slots? r = some f := by
  obtain ⟨id, hid, hf⟩ := Option.bind_eq_some_iff.1 hf
  exact (slots?_of_slotsId? (h.slotsId r id hid)).trans (h.functions id f hf)

theorem hasScope (h : Later a a') {e : ScopeId} (he : a.store.HasScope e) :
    a'.store.HasScope e :=
  (h.scopes e he).1

/-- Names go on to mean what they mean. -/
theorem lookupName (h : Later a a') (ha : a.Orderly) {e : ScopeId} (he : a.store.HasScope e)
    (name : String) : a'.store.lookupName e name = a.store.lookupName e name :=
  ha.nested.lookupName_congr h.orderly.nested h.scopes he name

end Later

theorem Orderly.pop (ha : a.Orderly) : a.pop.Orderly :=
  ⟨ha.sound.pop,
    ⟨ha.genuine.linked, fun c hc => ha.genuine.contexts c (List.mem_of_mem_tail hc),
      ha.genuine.functions⟩,
    ha.nested⟩

theorem Later.pop (h : Later a a') : Later a a'.pop :=
  ⟨h.orderly.pop, h.heap, h.scopes, h.slotsId, h.functions⟩

theorem Orderly.hasScope (ha : a.Orderly) (hc : a.running? = some c) :
    a.store.HasScope c.scope :=
  ha.sound.contexts c (List.mem_of_mem_head? hc)

theorem Orderly.realm (ha : a.Orderly) (hc : a.running? = some c) : c.realm.Created :=
  ha.genuine.contexts c (List.mem_of_mem_head? hc)

theorem permits_all (a : Agent) : a.Permits fun _ => True := fun _ _ _ _ => trivial

/-! ### Agents are orderly -/

theorem orderly_of_start (h : start settings = .ok a) : a.Orderly := by
  refine ⟨sound_of_start h, genuine_of_start h, ?_⟩
  rw [start_eq] at h
  cases h
  have hchanges : Changes (fun _ => True) False {} startStore := changes_startStore
  exact nested_empty.changes hchanges

theorem Orderly.perform (ha : a.Orderly) (cmd : Command) : (cmd.perform a).Orderly := by
  obtain ⟨hadvances, hsound⟩ := cmd.advances ha.sound
  exact ⟨hsound, cmd.genuine_perform ha.genuine, ha.nested.changes hadvances.store⟩

/-- Whatever an agent is told to do, it is orderly afterwards. -/
theorem Orderly.performAll (ha : a.Orderly) (cmds : List Command) :
    (Command.performAll a cmds).Orderly := by
  induction cmds generalizing a with
  | nil => exact ha
  | cons cmd cmds ih => exact ih (ha.perform cmd)

/-- Between evaluations the store may be changed in any way, as long as every new function belongs
to a realm that was created. -/
theorem Orderly.changes (ha : a.Orderly) {flags : Prop} {s : Store}
    (hc : Changes (fun f => f.realm.Created) flags a.store s) : Orderly { a with store := s } := by
  have hgrows : Grows a.store s := hc.grows
  constructor
  case sound =>
    exact ⟨hgrows.hasHeap ha.sound.heap, fun c hc' => hgrows.hasScope (ha.sound.contexts c hc'),
      ha.sound.functions.changes hc⟩
  case genuine =>
    refine ⟨ha.genuine.linked.changes hc, ha.genuine.contexts, fun id f hf => ?_⟩
    rcases hc.function?_cases hf with ⟨g, hg, hgf⟩ | ⟨g, hg, hgf⟩
    · rw [hgf.realm_eq]
      exact ha.genuine.functions id g hg
    · rwa [hgf.realm_eq]
  case nested => exact ha.nested.changes hc

/-- So all operations may be performed on it. -/
theorem Orderly.operate (ha : a.Orderly) {op : Operation} (hfits : op.Fits a.store)
    (hrealm : ∀ f, op.makes? a.store = some f → f.realm.Created) :
    Orderly { a with store := op.perform a.store } :=
  ha.changes ((Operation.changes_of_makes? hfits).weaken hrealm id)

/-! ### What is evaluated makes an agent later -/

/-- Changes that only add functions, with what belongs to them. -/
theorem Orderly.later (ha : a.Orderly) {made : List Creation} (hk : Keeps (fun _ => True) a a')
    (hb : Builds made a a') : Later a a' := by
  have hadds := hb.adds.store
  have hgenuine : a'.Genuine := ha.genuine.builds hb fun c hc => ⟨c, hk.contexts ▸ hc, rfl⟩
  exact ⟨⟨ha.sound.keeps hk, hgenuine, ha.nested.changes hk.store⟩, hk.heap, hadds.scopes,
    fun r id hid => hadds.slotsId?_of_slotsId? hid, fun id f hf => hadds.function?_of_function? hf⟩

theorem Orderly.later_statement (ha : a.Orderly) (s : Statement) :
    Later a (finalState (statement s) a) :=
  ha.later (keeps_statement s ha.sound a.permits_all).finalState
    (builds_statement s ha.genuine.ready).finalState

theorem Orderly.later_statements (ha : a.Orderly) (l : List Statement) :
    Later a (finalState (statements l) a) :=
  ha.later (keeps_statementsAfter .undefined l ha.sound a.permits_all).finalState
    (builds_statementsAfter .undefined l ha.genuine.ready (holds_undefined a)).finalState

/-! ### Names and function expressions -/

/-- A name in code is looked up in the scope of the running context, and nothing changes. -/
theorem expression_identifier (hc : a.running? = some c) (name : String) :
    expression (.identifier name) a =
      match a.store.lookupName c.scope name with
      | .ok v => .ok v a
      | .error e => .error e a := by
  rw [expression, bind_of_ok (running_of_some hc)]
  cases hv : a.store.lookupName c.scope name with
  | ok v => exact onStore_of_ok (by simp [Effect.inspect, hv])
  | error e => exact onStore_of_error (by simp [Effect.inspect, hv])

section

variable {d : FunctionDefinition}

/-- A function expression in an orderly agent makes a function if the heap has its prototype. -/
theorem Orderly.instantiate_of_lt (ha : a.Orderly) (hc : a.running? = some c)
    (hp : c.realm.intrinsics.functionPrototypeFor d.species < a.store.heapSize a.heap) :
    instantiate d a = .ok (a.store.nextClosure a.heap)
      { a with store := a.store.afterFunction a.heap c d } :=
  (instantiate_of_some hc d).trans
    (onStore_of_ok (instantiate_of_created ha.genuine.linked (ha.realm hc) hp))

/-- Otherwise there is nothing new but a scope for the name. -/
theorem Orderly.instantiate_of_le (ha : a.Orderly) (hc : a.running? = some c)
    (hp : a.store.heapSize a.heap ≤ c.realm.intrinsics.functionPrototypeFor d.species) :
    instantiate d a =
      .error (.refused (.danglingObject (c.realm.intrinsics.functionPrototypeFor d.species)))
        { a with store := a.store.withScopeFor c d.bindingName { isMutable := false } } :=
  (instantiate_of_some hc d).trans
    (onStore_of_error (Closure.instantiate_of_le ha.genuine.linked hp))

end

/-! ### New scopes -/

theorem slotsId?_pushScope (s : Store) (scope : Scope) (r : ObjectRef) :
    (s.pushScope scope).slotsId? r = s.slotsId? r := by
  rw [slotsId?, object?_pushScope, slotsId?]

theorem nested_pushScope {s : Store} {scope : Scope} (hs : s.Nested)
    (houter : ∀ o, scope.outer = some o → s.HasScope o) : (s.pushScope scope).Nested := by
  intro e o ho
  have hscope : ((s.pushScope scope).scope e).outer = some o := ho
  rw [scope_pushScope] at hscope
  split at hscope
  · next he =>
    -- the number of the new scope is larger than all others
    rw [he]
    exact houter o hscope
  · exact hs e o hscope

/-- A scope that no context is in and no function has captured yet makes no difference. -/
theorem Orderly.later_pushScope (ha : a.Orderly) {scope : Scope}
    (houter : ∀ o, scope.outer = some o → a.store.HasScope o) :
    Later a { a with store := a.store.pushScope scope } := by
  have hscopes : ∀ e, a.store.HasScope e → (a.store.pushScope scope).HasScope e ∧
      (a.store.pushScope scope).scope e = a.store.scope e :=
    fun e he => scope_pushScope_of_hasScope he scope
  have hread : ∀ r, (a.store.pushScope scope).slotsId? r = a.store.slotsId? r :=
    slotsId?_pushScope a.store scope
  have hscoped : (a.store.pushScope scope).Scoped := by
    obtain ⟨hslots, hunshared, hscope⟩ := ha.sound.functions
    refine ⟨fun r id hid => ?_, fun r r' id hid hid' => ?_, fun id f hf => ?_⟩
    · rw [hread] at hid
      exact hslots r id hid
    · rw [hread] at hid hid'
      exact hunshared r r' id hid hid'
    · exact (hscopes _ (hscope id f hf)).1
  constructor
  case orderly =>
    constructor
    case sound =>
      exact ⟨ha.sound.heap, fun c hc => (hscopes _ (ha.sound.contexts c hc)).1, hscoped⟩
    case genuine =>
      exact ⟨ha.genuine.linked.pushScope scope, ha.genuine.contexts, ha.genuine.functions⟩
    case nested => exact nested_pushScope ha.nested houter
  case heap => rfl
  case scopes => exact hscopes
  case slotsId => exact fun r id hid => (hread r).trans hid
  case functions => exact fun _ _ hf => hf

theorem Later.push (h : Later a a') {c : Context} (he : a'.store.HasScope c.scope)
    (hc : c.realm.Created) : Later a (a'.push c) := by
  have hgenuine : (a'.push c).Genuine := by
    refine ⟨h.orderly.genuine.linked, ?_, h.orderly.genuine.functions⟩
    intro c' hc'
    rcases List.mem_cons.1 hc' with rfl | hc'
    · exact hc
    · exact h.orderly.genuine.contexts c' hc'
  exact ⟨⟨h.orderly.sound.push he, hgenuine, h.orderly.nested⟩, h.heap, h.scopes, h.slotsId,
    h.functions⟩

/-- An agent that goes on in a new scope, in a context of a realm that was created. -/
theorem Orderly.later_push (ha : a.Orderly) {scope : Scope} {c : Context}
    (houter : ∀ o, scope.outer = some o → a.store.HasScope o) (hc : c.realm.Created) :
    Later a (push { a with store := a.store.pushScope scope } (c.inScope a.store.nextScope)) := by
  refine (ha.later_pushScope houter).push ?_ hc
  show a.store.nextScope.index < (a.store.pushScope scope).scopes.size
  simp [pushScope, nextScope]

/-- The agent in a block, at its beginning. -/
def inBlock (a : Agent) (c : Context) : Agent :=
  (a.withScope c.scope).push (c.inScope a.store.nextScope)

theorem running?_inBlock (a : Agent) (c : Context) :
    (a.inBlock c).running? = some (c.inScope a.store.nextScope) := rfl

theorem scope_inBlock (a : Agent) (c : Context) :
    (a.inBlock c).store.scope a.store.nextScope = { outer := some c.scope } :=
  (scope_pushScope _ _ _).trans (if_pos rfl)

theorem Orderly.later_inBlock (ha : a.Orderly) (hc : a.running? = some c) :
    Later a (a.inBlock c) := by
  have houter : ∀ o, some c.scope = some o → a.store.HasScope o := by
    rintro o ⟨⟩
    exact ha.hasScope hc
  exact ha.later_push houter (ha.realm hc)

/-- At the beginning of a block names mean what they mean outside. -/
theorem Orderly.lookupName_inBlock (ha : a.Orderly) (hc : a.running? = some c) (name : String) :
    (a.inBlock c).store.lookupName a.store.nextScope name = a.store.lookupName c.scope name := by
  have hlater := ha.later_inBlock hc
  have houter : ((a.inBlock c).store.scope a.store.nextScope).outer = some c.scope := by
    rw [scope_inBlock]
  have hunbound : ((a.inBlock c).store.scope a.store.nextScope).binding? name = none := by
    rw [scope_inBlock]
    rfl
  rw [hlater.orderly.nested.lookupName_of_outer (hasScope_withScope c.scope)
      (hlater.hasScope (ha.hasScope hc)) houter hunbound,
    hlater.lookupName ha (ha.hasScope hc)]

end Agent

end FunctionObjects
