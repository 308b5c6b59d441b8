import FunctionObjects.Proofs.Scope.Chains
import FunctionObjects.Proofs.Store.Building
import Mathlib.Logic.Equiv.Defs
import Mathlib.Tactic.SplitIfs

/-!
# Other numbers for objects, functions and scopes

The number of an object and the places of a function and of a scope only say when they were made. A
`Renaming` is another choice of all three, and `rename` carries it through whatever refers to them:
the values of properties and bindings, prototypes, what an object knows of its handle and its slots,
what is in the slots, and the outer scopes. Two stores correspond (`Store.Corresponds`) if the one
becomes the other by a renaming; then they cannot be told apart but by the numbers.

What refers to none of the numbers that are chosen anew stays as it is (`rename_eq_self`). So a
renaming that leaves the numbers alone that are in use changes nothing of what there is
(`Renaming.Fixes`).
-/

namespace FunctionObjects

/-! ### The exchange of two blocks -/

/-- Where a number goes when the `k` numbers from `n` on change places with the `l` numbers that
follow them. -/
def exchanged (n k l i : Nat) : Nat :=
  if i < n then i else if i < n + k then i + l else if i < n + k + l then i - k else i

theorem exchanged_exchanged (n k l i : Nat) : exchanged n l k (exchanged n k l i) = i := by
  unfold exchanged
  split_ifs <;> omega

/-- The exchange of the `k` numbers from `n` on with the `l` numbers that follow them. -/
def exchange (n k l : Nat) : Equiv.Perm Nat where
  toFun := exchanged n k l
  invFun := exchanged n l k
  left_inv := exchanged_exchanged n k l
  right_inv := exchanged_exchanged n l k

section

variable {n k l i : Nat}

/-- What comes before the two blocks stays where it is. -/
theorem exchange_of_lt (hi : i < n) : exchange n k l i = i := if_pos hi

/-- The first block comes to stand behind the second one. -/
theorem exchange_first (hi : i < k) : exchange n k l (n + i) = n + l + i := by
  show exchanged n k l (n + i) = _
  unfold exchanged
  split_ifs <;> omega

/-- The second block comes to stand where the first one began. -/
theorem exchange_second (hi : i < l) : exchange n k l (n + k + i) = n + i := by
  show exchanged n k l (n + k + i) = _
  unfold exchanged
  split_ifs <;> omega

/-- What comes after the two blocks stays too. -/
theorem exchange_of_le (hi : n + k + l ≤ i) : exchange n k l i = i := by
  show exchanged n k l i = _
  unfold exchanged
  split_ifs <;> omega

/-- No number leaves the two blocks, and none comes into them. -/
theorem exchange_lt_iff : exchange n k l i < n + k + l ↔ i < n + k + l := by
  show exchanged n k l i < _ ↔ _
  unfold exchanged
  split_ifs <;> omega

/-- A list in three parts, of which the last two change places. -/
theorem getElem?_exchange {α : Type} (a b c : List α) (i : Nat) :
    (a ++ c ++ b)[exchange a.length b.length c.length i]? = (a ++ b ++ c)[i]? := by
  rcases Nat.lt_or_ge i a.length with hi | hi
  · rw [exchange_of_lt hi, List.append_assoc, List.append_assoc, List.getElem?_append_left hi,
      List.getElem?_append_left hi]
  · obtain ⟨j, rfl⟩ := Nat.exists_eq_add_of_le hi
    rcases Nat.lt_or_ge j b.length with hj | hj
    · rw [exchange_first hj, List.append_assoc a b c, ← List.length_append,
        List.getElem?_append_right (Nat.le_add_right _ _),
        List.getElem?_append_right (Nat.le_add_right _ _), Nat.add_sub_cancel_left,
        Nat.add_sub_cancel_left, List.getElem?_append_left hj]
    · obtain ⟨j, rfl⟩ := Nat.exists_eq_add_of_le hj
      rw [← Nat.add_assoc]
      rcases Nat.lt_or_ge j c.length with hj | hj
      · rw [exchange_second hj, List.append_assoc a c b, ← List.length_append,
          List.getElem?_append_right (Nat.le_add_right _ _),
          List.getElem?_append_right (Nat.le_add_right _ _), Nat.add_sub_cancel_left,
          Nat.add_sub_cancel_left, List.getElem?_append_left hj]
      · rw [exchange_of_le (Nat.add_le_add_left hj _), List.getElem?_eq_none,
          List.getElem?_eq_none]
        · rw [List.length_append, List.length_append]
          exact Nat.add_le_add_left hj _
        · rw [List.length_append, List.length_append]
          omega

/-- A list in three parts, of which the last two change places while all entries change by a
function. -/
theorem getElem?_exchange_map {α : Type} {f : α → α} {a b c b' c' : List α} (ha : a.map f = a)
    (hb : b.map f = b') (hc : c.map f = c') (i : Nat) :
    (a ++ c' ++ b')[exchange a.length b.length c.length i]? = (a ++ b ++ c)[i]?.map f := by
  rw [← List.getElem?_map, List.map_append, List.map_append, ha, hb, hc,
    ← getElem?_exchange a b' c' i, ← hb, ← hc, List.length_map, List.length_map]

end

/-! ### Renaming -/

/-- Another choice of the numbers of objects, in one heap, and of the places of scopes and slots. -/
structure Renaming : Type where
  object : Equiv.Perm ObjectId
  scopeIndex : Equiv.Perm Nat
  functionIndex : Equiv.Perm Nat

namespace Renaming

def scope (ρ : Renaming) (e : ScopeId) : ScopeId := ⟨ρ.scopeIndex e.index⟩

def function (ρ : Renaming) (id : FunctionId) : FunctionId := ⟨ρ.functionIndex id.index⟩

end Renaming

/-- A map with the same keys in the same order and other values. -/
def OrderedMap.map {α β γ : Type} (f : β → γ) (m : OrderedMap α β) : OrderedMap α γ :=
  ⟨m.entries.map fun entry => (entry.1, f entry.2)⟩

section

variable (ρ : Renaming) (h : HeapId)

def Value.rename : Value → Value
  | .object id => .object (ρ.object id)
  | v => v

/-- A reference to an object of the heap leads to its new number. All others stay. -/
def ObjectRef.rename : ObjectRef → ObjectRef
  | .allocated i id => .allocated i (if i = h then ρ.object id else id)
  | .loose index => .loose index

/-- The attributes of a property are no numbers. -/
def Property.rename (p : Property) : Property := { p with value := p.value.rename ρ }

/-- Of the slots of a function, the scope and the home object are referred to by numbers. -/
def FunctionSlots.rename (f : FunctionSlots) : FunctionSlots :=
  { f with scope := ρ.scope f.scope, homeObject := f.homeObject.map ρ.object }

def Object.rename (o : Object) : Object :=
  { o with
    id := o.id.map ρ.object
    properties := o.properties.map (Property.rename ρ)
    prototype := o.prototype.map (ObjectRef.rename ρ h)
    slots := o.slots.map ρ.function }

def Binding.rename (b : Binding) : Binding := { b with value := b.value.rename ρ }

def Scope.rename (s : Scope) : Scope where
  bindings := s.bindings.map (Binding.rename ρ)
  outer := s.outer.map ρ.scope

def Closure.rename (c : Closure) : Closure :=
  ⟨ρ.object c.id, c.ref.rename ρ h, ρ.function c.slots⟩

end

/-- Two stores that differ at most in the objects of one heap with their slots and in the scopes. -/
structure Store.SameElsewhere (h : HeapId) (s s' : Store) : Prop where
  otherHeaps : ∀ i, i ≠ h → s'.heap i = s.heap i
  otherHandles : ∀ i, i ≠ h → s'.handles i = s.handles i
  loose : s'.loose = s.loose
  otherSlots : ∀ r, (∀ id, r ≠ .allocated h id) → s'.slots? r = s.slots? r
  privateScopes : s'.privateScopes = s.privateScopes
  privateNames : s'.privateNamesIssued = s.privateNamesIssued
  realms : s'.realmsIssued = s.realmsIssued

namespace Store.SameElsewhere

variable {h : HeapId} {s s' s'' : Store}

theorem symm (hs : SameElsewhere h s s') : SameElsewhere h s' s :=
  ⟨fun i hi => (hs.otherHeaps i hi).symm, fun i hi => (hs.otherHandles i hi).symm, hs.loose.symm,
    fun r hr => (hs.otherSlots r hr).symm, hs.privateScopes.symm, hs.privateNames.symm,
    hs.realms.symm⟩

theorem trans (hs : SameElsewhere h s s') (hs' : SameElsewhere h s' s'') :
    SameElsewhere h s s'' :=
  ⟨fun i hi => (hs'.otherHeaps i hi).trans (hs.otherHeaps i hi),
    fun i hi => (hs'.otherHandles i hi).trans (hs.otherHandles i hi), hs'.loose.trans hs.loose,
    fun r hr => (hs'.otherSlots r hr).trans (hs.otherSlots r hr),
    hs'.privateScopes.trans hs.privateScopes, hs'.privateNames.trans hs.privateNames,
    hs'.realms.trans hs.realms⟩

end Store.SameElsewhere

/-- The second store is the first one by other numbers for the objects of a heap, for their slots
and for the scopes. All else is the same. -/
structure Store.Corresponds (ρ : Renaming) (h : HeapId) (s s' : Store) : Prop where
  objects : ∀ id, s'.object? (.allocated h (ρ.object id)) =
    (s.object? (.allocated h id)).map (Object.rename ρ h)
  handles : ∀ id, s'.get? h (ρ.object id) = (s.get? h id).map (ObjectRef.rename ρ h)
  slots : ∀ id, s'.slots? (.allocated h (ρ.object id)) =
    (s.slots? (.allocated h id)).map (FunctionSlots.rename ρ)
  hasFunction : ∀ id, s'.HasFunction (ρ.function id) ↔ s.HasFunction id
  hasScope : ∀ e, s'.HasScope (ρ.scope e) ↔ s.HasScope e
  scopes : ∀ e, s'.scope (ρ.scope e) = (s.scope e).rename ρ
  elsewhere : s.SameElsewhere h s'

/-- The entries of the lists decide, at places that exist and at others. -/
theorem Store.Corresponds.of_entries {ρ : Renaming} {h : HeapId} {s s' : Store}
    (hs : s.Consistent) (hs' : s'.Consistent)
    (hobjects : ∀ id, (s'.heap h)[ρ.object id]? = (s.heap h)[id]?.map (Object.rename ρ h))
    (hslots : ∀ id i, s.slotsId? (.allocated h id) = some i →
      s'.function? (ρ.function i) = (s.function? i).map (FunctionSlots.rename ρ))
    (hfunctions : ∀ id, s'.HasFunction (ρ.function id) ↔ s.HasFunction id)
    (hscopes : ∀ i, s'.scopes[ρ.scopeIndex i]? = s.scopes[i]?.map (Scope.rename ρ))
    (helsewhere : SameElsewhere h s s') : Corresponds ρ h s s' := by
  refine ⟨hobjects, fun id => ?_, fun id => ?_, hfunctions, fun e => ?_, fun e => ?_, helsewhere⟩
  · have hlive : ρ.object id < s'.heapSize h ↔ id < s.heapSize h := by
      simp only [← live_allocated_iff, Live, object?, hobjects, Option.isSome_map]
    rw [hs'.handles, hs.handles]
    simp only [hlive]
    split <;> simp [ObjectRef.rename]
  · have hread : s'.slotsId? (.allocated h (ρ.object id)) =
        (s.slotsId? (.allocated h id)).map ρ.function := by
      simp only [slotsId?, object?, hobjects]
      cases (s.heap h)[id]? <;> rfl
    rw [Store.slots?, hread, Store.slots?]
    cases hid : s.slotsId? (.allocated h id) with
    | none => rfl
    | some i => exact hslots id i hid
  · have hsome : ∀ (t : Store) (e : ScopeId), t.HasScope e ↔ t.scopes[e.index]?.isSome = true :=
      fun t e => by simp [HasScope]
    rw [hsome, hsome, Renaming.scope, hscopes, Option.isSome_map]
  · rw [Store.scope, Store.scope, Renaming.scope, hscopes]
    cases s.scopes[e.index]? <;> rfl

/-! ### What stays as it is -/

namespace Store

/-- All handles in the objects of a heap and in the scopes are those of objects of the heap. -/
structure HandlesResolve (s : Store) (h : HeapId) : Prop where
  properties : ∀ o ∈ s.heap h, ∀ entry ∈ o.properties.entries, ∀ q ∈ entry.2.value.object?,
    q < s.heapSize h
  homes : ∀ o ∈ s.heap h, ∀ id ∈ o.slots, ∀ f ∈ s.function? id, ∀ q ∈ f.homeObject,
    q < s.heapSize h
  bindings : ∀ scope ∈ s.scopes, ∀ entry ∈ scope.bindings.entries, ∀ q ∈ entry.2.value.object?,
    q < s.heapSize h

instance (s : Store) (h : HeapId) : Decidable (s.HandlesResolve h) :=
  decidable_of_iff
    ((∀ o ∈ s.heap h, ∀ entry ∈ o.properties.entries, ∀ q ∈ entry.2.value.object?,
        q < s.heapSize h) ∧
      (∀ o ∈ s.heap h, ∀ id ∈ o.slots, ∀ f ∈ s.function? id, ∀ q ∈ f.homeObject,
        q < s.heapSize h) ∧
      ∀ scope ∈ s.scopes, ∀ entry ∈ scope.bindings.entries, ∀ q ∈ entry.2.value.object?,
        q < s.heapSize h)
    ⟨fun ⟨hp, hh, hb⟩ => ⟨hp, hh, hb⟩, fun hr => ⟨hr.properties, hr.homes, hr.bindings⟩⟩

end Store

section

variable {ρ : Renaming} {h : HeapId}

theorem OrderedMap.map_eq_self {α β : Type} {f : β → β} {m : OrderedMap α β}
    (hf : ∀ entry ∈ m.entries, f entry.2 = entry.2) : m.map f = m := by
  have hentries : m.entries.map (fun entry => (entry.1, f entry.2)) = m.entries := by
    refine (List.map_congr_left fun entry he => ?_).trans (List.map_id _)
    rw [hf entry he]
    rfl
  rw [OrderedMap.map, hentries]

theorem Value.rename_eq_self {v : Value} (hv : ∀ q ∈ v.object?, ρ.object q = q) :
    v.rename ρ = v := by
  cases v with
  | object q => exact congrArg Value.object (hv q rfl)
  | _ => rfl

theorem ObjectRef.rename_eq_self {r : ObjectRef} (hr : ∀ q, r = .allocated h q → ρ.object q = q) :
    r.rename ρ h = r := by
  cases r with
  | loose n => rfl
  | allocated i q =>
    by_cases hi : i = h
    · subst hi
      rw [ObjectRef.rename, if_pos rfl, hr q rfl]
    · rw [ObjectRef.rename, if_neg hi]

theorem option_map_eq_self {α : Type} {f : α → α} {x : Option α} (hf : ∀ a ∈ x, f a = a) :
    x.map f = x :=
  (Option.map_congr hf).trans (congrFun Option.map_id x)

theorem FunctionSlots.rename_eq_self {f : FunctionSlots} (hscope : ρ.scope f.scope = f.scope)
    (hhome : ∀ q ∈ f.homeObject, ρ.object q = q) : f.rename ρ = f := by
  rw [FunctionSlots.rename, hscope, option_map_eq_self hhome]

theorem Object.rename_eq_self {o : Object} (hid : ∀ q ∈ o.id, ρ.object q = q)
    (hproperties : ∀ entry ∈ o.properties.entries, ∀ q ∈ entry.2.value.object?, ρ.object q = q)
    (hprototype : ∀ q, o.prototype = some (.allocated h q) → ρ.object q = q)
    (hslots : ∀ i ∈ o.slots, ρ.function i = i) : o.rename ρ h = o := by
  have hp : o.properties.map (Property.rename ρ) = o.properties :=
    OrderedMap.map_eq_self fun entry he => by
      rw [Property.rename, Value.rename_eq_self (hproperties entry he)]
  have hr : o.prototype.map (ObjectRef.rename ρ h) = o.prototype :=
    option_map_eq_self fun r hr => ObjectRef.rename_eq_self fun q hq => hprototype q (hq ▸ hr)
  rw [Object.rename, hp, hr, option_map_eq_self hid, option_map_eq_self hslots]

theorem Scope.rename_eq_self {s : Scope}
    (hbindings : ∀ entry ∈ s.bindings.entries, ∀ q ∈ entry.2.value.object?, ρ.object q = q)
    (houter : ∀ e ∈ s.outer, ρ.scope e = e) : s.rename ρ = s := by
  have hb : s.bindings.map (Binding.rename ρ) = s.bindings :=
    OrderedMap.map_eq_self fun entry he => by
      rw [Binding.rename, Value.rename_eq_self (hbindings entry he)]
  rw [Scope.rename, hb, option_map_eq_self houter]

end

namespace Renaming

/-- The renaming leaves all numbers alone that are in use. -/
structure Fixes (ρ : Renaming) (s : Store) (h : HeapId) : Prop where
  objects : ∀ id, id < s.heapSize h → ρ.object id = id
  scopes : ∀ e, s.HasScope e → ρ.scope e = e
  functions : ∀ id, s.HasFunction id → ρ.function id = id

variable {ρ : Renaming} {s : Store} {h : HeapId}

theorem Fixes.heap_map (hρ : ρ.Fixes s h) (hs : s.Reachable) (hr : s.HandlesResolve h) :
    (s.heap h).toList.map (Object.rename ρ h) = (s.heap h).toList := by
  refine (List.map_congr_left fun o ho => ?_).trans (List.map_id _)
  obtain ⟨id, hid⟩ := List.getElem?_of_mem ho
  have hobject : s.object? (.allocated h id) = some o := by
    rwa [Array.getElem?_toList] at hid
  rw [Array.mem_toList_iff] at ho
  have hlt : id < s.heapSize h := Store.live_allocated_iff.1 (.of_object? hobject)
  refine Object.rename_eq_self (fun q hq => ?_) (fun entry he q hq => ?_) (fun q hq => ?_)
    fun i hi => ?_
  · rw [hs.linked.told _ _ hobject] at hq
    cases hq
    exact hρ.objects id hlt
  · exact hρ.objects q (hr.properties o ho entry he q hq)
  · have hprototype : s.prototype? (.allocated h id) = some (.allocated h q) := by
      rw [Store.prototype?, hobject]
      exact hq
    exact hρ.objects q (Store.live_allocated_iff.1 (hs.linked.live _ _ hprototype))
  · exact hρ.functions i (hs.scoped.slots _ i ((Store.slotsId?_of_object? hobject).trans hi))

/-- The slots of the functions that there are. -/
theorem Fixes.function_rename (hρ : ρ.Fixes s h) (hs : s.Reachable) (hr : s.HandlesResolve h)
    {id : ObjectId} {i : FunctionId} {f : FunctionSlots}
    (hi : s.slotsId? (.allocated h id) = some i) (hf : s.function? i = some f) :
    f.rename ρ = f := by
  obtain ⟨o, ho, hslots⟩ := Option.bind_eq_some_iff.1 hi
  refine FunctionSlots.rename_eq_self (hρ.scopes _ (hs.scoped.scope i f hf)) fun q hq => ?_
  exact hρ.objects q (hr.homes o (Array.mem_of_getElem? ho) i hslots f hf q hq)

theorem Fixes.scopes_map (hρ : ρ.Fixes s h) (hs : s.Reachable) (hr : s.HandlesResolve h) :
    s.scopes.toList.map (Scope.rename ρ) = s.scopes.toList := by
  refine (List.map_congr_left fun scope hscope => ?_).trans (List.map_id _)
  obtain ⟨i, hi⟩ := List.getElem?_of_mem hscope
  rw [Array.getElem?_toList] at hi
  rw [Array.mem_toList_iff] at hscope
  refine Scope.rename_eq_self (fun entry he q hq => ?_) fun e he => ?_
  · exact hρ.objects q (hr.bindings scope hscope entry he q hq)
  · have houter : s.outer? ⟨i⟩ = some e := by
      rw [Store.outer?, Store.scope, hi]
      exact he
    -- an outer scope is older than the one inside it
    exact hρ.scopes e ((hs.nested _ _ houter).trans (Array.getElem?_eq_some_iff.1 hi).1)

end Renaming

end FunctionObjects
