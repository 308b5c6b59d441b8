import FunctionObjects.Proofs.Store.Building

/-!
# Realms and functions in one heap

Realms are created in a heap, any number of them, and functions are made in contexts of these
realms, in any order. A `Population` keeps a list of both beside the store. Nothing else happens to
the heap, so everything stands where it was put, one after the other: the seven objects of a realm
from the number of the first one on, and each function with what belongs to it from its own number
on. `Settled` says this of a population. It is so at the beginning, when there are no realms and no
functions yet, and every order keeps it so, and none fails.
-/

namespace FunctionObjects

open Store

/-- The numbers of the objects of a realm. -/
def Intrinsics.ids (i : Intrinsics) : List ObjectId :=
  [i.objectPrototype, i.functionPrototype, i.asyncFunctionPrototype, i.generatorPrototype,
    i.generatorFunctionPrototype, i.asyncGeneratorPrototype, i.asyncGeneratorFunctionPrototype]

theorem Intrinsics.mem_ids_startingAt {n id : ObjectId} :
    id ∈ (startingAt n).ids ↔ ∃ k < 7, id = n + k := by
  have hids : (startingAt n).ids = (List.range 7).map (n + ·) := rfl
  rw [hids, List.mem_map]
  simp only [List.mem_range, eq_comm]

/-! ### Objects in a row -/

namespace Store

/-- The objects of a list stand in a heap one after the other, the first of them at the number `n`.
-/
def HasFrom (s : Store) (h : HeapId) (n : ObjectId) (l : List Object) : Prop :=
  ∀ (k : Nat) o, l[k]? = some o → s.object? (.allocated h (n + k)) = some o

variable {s s' : Store} {h : HeapId} {l l' : List Object} {n : ObjectId}

theorem HasFrom.lt_heapSize (hl : s.HasFrom h n l) {k : Nat} (hk : k < l.length) :
    n + k < s.heapSize h :=
  live_allocated_iff.1 (.of_object? (hl k l[k] (List.getElem?_eq_getElem hk)))

namespace Appends

/-- What stands somewhere remains there. -/
theorem hasFrom (ha : Appends h l s s') (hh : s.HasHeap h) (hl : s.HasFrom h n l') :
    s'.HasFrom h n l' := by
  intro k o ho
  have hold := hl k o ho
  rw [ha.object?_of_live hh (.of_object? hold), hold]

theorem hasFrom_new (ha : Appends h l s s') (hh : s.HasHeap h) :
    s'.HasFrom h (s.heapSize h) l := by
  intro k o ho
  rw [ha.object?_eq, object?_extend_new hh, ho]

end Appends

/-- No function is made with a realm. -/
theorem function?_afterNext (s : Store) (h : HeapId) (id : FunctionId) :
    (Realm.afterNext s h).function? id = s.function? id := rfl

theorem appends_afterNext (s : Store) (h : HeapId) :
    Appends h (Realm.prototypes h (s.heapSize h)) s (Realm.afterNext s h) := ⟨rfl, rfl⟩

end Store

/-! ### Populations -/

/-- What has been made in a heap: realms, and functions, each with what it was made from. -/
structure Population : Type where
  store : Store
  realms : List Realm := []
  functions : List (Closure × Creation) := []

namespace Population

/-- The population after an effect. If this has a result, `add` puts it into the lists. -/
def after {α : Type} (w : Population) (act : Effect α) (add : α → Population) : Population :=
  match act w.store with
  | .ok x s => { add x with store := s }
  | .error _ s => { w with store := s }

theorem after_of_ok {α : Type} {w : Population} {act : Effect α} {add : α → Population} {x : α}
    {s : Store} (h : act w.store = .ok x s) : w.after act add = { add x with store := s } := by
  simp only [after, h]

/-- What can be made. -/
inductive Order : Type where
  | realm
  | function (context : Context) (d : FunctionDefinition)

namespace Order

/-- The population after an order. An order that fails adds nothing to the lists. -/
def perform (h : HeapId) (w : Population) : Order → Population
  | realm => w.after (Realm.create h) fun r => { w with realms := w.realms ++ [r] }
  | function context d => w.after (Closure.instantiate h context d) fun c =>
    { w with functions := w.functions ++ [(c, .next w.store context d)] }

/-- Functions are made in realms that there are. -/
def Fits (w : Population) : Order → Prop
  | realm => True
  | function context _ => context.realm ∈ w.realms

instance (w : Population) : (o : Order) → Decidable (o.Fits w)
  | realm => inferInstanceAs (Decidable True)
  | function context _ => inferInstanceAs (Decidable (context.realm ∈ w.realms))

end Order

/-- The population after a series of orders. -/
def performAll (h : HeapId) (w : Population) (orders : List Order) : Population :=
  orders.foldl (Order.perform h) w

/-- Each of a series of orders fits the population that those before it have led to. -/
def FitAll (h : HeapId) (w : Population) : List Order → Prop
  | [] => True
  | o :: orders => o.Fits w ∧ FitAll h (o.perform h w) orders

instance decidableFitAll (h : HeapId) (w : Population) :
    (orders : List Order) → Decidable (FitAll h w orders)
  | [] => inferInstanceAs (Decidable True)
  | o :: orders =>
    have := decidableFitAll h (o.perform h w) orders
    inferInstanceAs (Decidable (o.Fits w ∧ FitAll h (o.perform h w) orders))

/-- Everything stands in the heap where it was put, one thing after the other. What there was before
the first order has the numbers below `n₀`. -/
structure Settled (h : HeapId) (n₀ : ObjectId) (w : Population) : Prop where
  linked : w.store.Linked
  hasHeap : w.store.HasHeap h
  size : n₀ ≤ w.store.heapSize h
  realms : ∀ r ∈ w.realms, ∃ n, r.intrinsics = .startingAt n ∧ n₀ ≤ n ∧
    w.store.HasFrom h n (Realm.prototypes h n)
  apart : w.realms.Pairwise fun r r' => r.intrinsics.ids.Disjoint r'.intrinsics.ids
  functions : ∀ c m, (c, m) ∈ w.functions → n₀ ≤ c.id ∧ m.context.realm ∈ w.realms ∧
    w.store.HasFrom h c.id (m.objects h c.id)
  /-- Each function is had by its handle, where the object is, and where the slots are. -/
  closures : ∀ c m, (c, m) ∈ w.functions → c = ⟨c.id, .allocated h c.id, m.slots⟩
  slots : ∀ c m, (c, m) ∈ w.functions → w.store.function? m.slots = some m.function
  distinct : (w.functions.map Prod.fst).Nodup

namespace Settled

variable {h : HeapId} {n₀ : ObjectId} {w : Population} {o : Order} {r : Realm} {c : Closure}
  {m : Creation}

theorem lt_heapSize_of_mem_ids (hw : w.Settled h n₀) (hr : r ∈ w.realms) {id : ObjectId}
    (hid : id ∈ r.intrinsics.ids) : id < w.store.heapSize h := by
  obtain ⟨n, hn, -, hobjects⟩ := hw.realms r hr
  rw [hn, Intrinsics.mem_ids_startingAt] at hid
  obtain ⟨k, hk, rfl⟩ := hid
  exact hobjects.lt_heapSize hk

theorem ref_eq (hw : w.Settled h n₀) (hc : (c, m) ∈ w.functions) : c.ref = .allocated h c.id :=
  congrArg Closure.ref (hw.closures c m hc)

theorem slots_eq (hw : w.Settled h n₀) (hc : (c, m) ∈ w.functions) : c.slots = m.slots :=
  congrArg Closure.slots (hw.closures c m hc)

theorem lt_heapSize_of_mem (hw : w.Settled h n₀) (hc : (c, m) ∈ w.functions) :
    c.id < w.store.heapSize h := by
  obtain ⟨-, -, hobjects⟩ := hw.functions c m hc
  exact hobjects.lt_heapSize (k := 0) (List.getElem?_eq_some_iff.1 (Closure.group_zero _ _)).1

theorem hasPrototypes (hw : w.Settled h n₀) {context : Context} (hr : context.realm ∈ w.realms)
    (d : FunctionDefinition) : Closure.HasPrototypes w.store h context d := by
  obtain ⟨n, hn, -, hobjects⟩ := hw.realms _ hr
  have hfunction : context.realm.intrinsics.functionPrototypeFor d.species <
      w.store.heapSize h := by
    rw [hn]
    have hlast : n + 6 < w.store.heapSize h := hobjects.lt_heapSize (show 6 < 7 by decide)
    exact lt_of_lt_of_le (Intrinsics.functionPrototypeFor_lt n d.species) hlast
  refine ⟨hfunction, fun q hq => lt_trans ?_ hfunction⟩
  rw [hn] at hq ⊢
  exact Intrinsics.instanceParent?_lt hq

/-- A new realm comes after all that there is. -/
theorem realm (hw : w.Settled h n₀) :
    Settled h n₀ { w with
      store := Realm.afterNext w.store h, realms := w.realms ++ [Realm.next w.store h] } := by
  have hh := hw.hasHeap
  have happends := appends_afterNext w.store h
  refine ⟨?_, happends.hasHeap hh, ?_, fun r hr => ?_, ?_, fun c m hc => ?_, hw.closures,
    fun c m hc => (function?_afterNext _ _ _).trans (hw.slots c m hc), hw.distinct⟩
  · have hcreated : Changes (fun _ => True) True w.store (Realm.afterNext w.store h) :=
      ((Realm.changes_create hh).of_ok (Realm.create_eq hw.linked hh)).1
    exact hw.linked.changes hcreated
  · rw [happends.heapSize hh]
    exact Nat.le_add_right_of_le hw.size
  · rcases List.mem_append.1 hr with hr | hr
    · obtain ⟨n, hn, hnew, hobjects⟩ := hw.realms r hr
      exact ⟨n, hn, hnew, happends.hasFrom hh hobjects⟩
    · rw [List.mem_singleton.1 hr]
      exact ⟨_, rfl, hw.size, happends.hasFrom_new hh⟩
  · refine List.pairwise_append.2 ⟨hw.apart, List.pairwise_singleton _ _, ?_⟩
    intro r hr r' hr' id hid hid'
    rw [List.mem_singleton.1 hr'] at hid'
    obtain ⟨k, -, rfl⟩ := Intrinsics.mem_ids_startingAt.1 hid'
    exact absurd (hw.lt_heapSize_of_mem_ids hr hid) (Nat.not_lt.2 (Nat.le_add_right _ k))
  · obtain ⟨hnew, hr, hobjects⟩ := hw.functions c m hc
    exact ⟨hnew, List.mem_append_left _ hr, happends.hasFrom hh hobjects⟩

/-- So does a new function. -/
theorem function (hw : w.Settled h n₀) {context : Context} (hr : context.realm ∈ w.realms)
    (d : FunctionDefinition) :
    Settled h n₀ { w with
      store := w.store.afterFunction h context d
      functions := w.functions ++ [(w.store.nextClosure h, .next w.store context d)] } := by
  have hh := hw.hasHeap
  have hp := hw.hasPrototypes hr d
  have happends := appends_afterFunction w.store h context d
  refine ⟨Closure.linked_withFunction hw.linked hp, happends.hasHeap hh, ?_, fun r hr => ?_,
    hw.apart, fun c m hc => ?_, fun c m hc => ?_, fun c m hc => ?_, ?_⟩
  · rw [happends.heapSize hh]
    exact Nat.le_add_right_of_le hw.size
  · obtain ⟨n, hn, hnew, hobjects⟩ := hw.realms r hr
    exact ⟨n, hn, hnew, happends.hasFrom hh hobjects⟩
  · rcases List.mem_append.1 hc with hc | hc
    · obtain ⟨hnew, hr, hobjects⟩ := hw.functions c m hc
      exact ⟨hnew, hr, happends.hasFrom hh hobjects⟩
    · cases List.mem_singleton.1 hc
      exact ⟨hw.size, hr, happends.hasFrom_new hh⟩
  · rcases List.mem_append.1 hc with hc | hc
    · exact hw.closures c m hc
    · cases List.mem_singleton.1 hc
      rfl
  · rcases List.mem_append.1 hc with hc | hc
    · have hold := hw.slots c m hc
      exact (function?_afterFunction_of_hasFunction h context d (.of_function? hold)).trans hold
    · cases List.mem_singleton.1 hc
      exact (function?_afterFunction _ h context d _).trans (if_pos rfl)
  · rw [List.map_append]
    refine List.nodup_append.2 ⟨hw.distinct, List.pairwise_singleton _ _, ?_⟩
    intro c hc c' hc' heq
    obtain ⟨⟨c, m⟩, hmem, rfl⟩ := List.mem_map.1 hc
    rw [List.mem_singleton.1 hc'] at heq
    have hlt := hw.lt_heapSize_of_mem hmem
    rw [show c = _ from heq] at hlt
    exact absurd hlt (Nat.lt_irrefl _)

/-- No order fails. -/
theorem perform (hw : w.Settled h n₀) (ho : o.Fits w) :
    (o.perform h w).Settled h n₀ ∧
      (o.perform h w).realms.length + (o.perform h w).functions.length =
        w.realms.length + w.functions.length + 1 := by
  cases o with
  | realm =>
    rw [Order.perform, after_of_ok (Realm.create_eq hw.linked hw.hasHeap)]
    refine ⟨hw.realm, ?_⟩
    rw [List.length_append, List.length_singleton, Nat.add_right_comm]
  | function context d =>
    have hmade : Closure.instantiate h context d w.store =
        .ok (w.store.nextClosure h) (w.store.afterFunction h context d) :=
      Closure.instantiate_of_hasPrototypes hw.linked hw.hasHeap (hw.hasPrototypes ho d)
    rw [Order.perform, after_of_ok hmade]
    refine ⟨hw.function ho d, ?_⟩
    rw [List.length_append, List.length_singleton, Nat.add_assoc]

theorem performAll (hw : w.Settled h n₀) {orders : List Order} (hfit : FitAll h w orders) :
    (performAll h w orders).Settled h n₀ ∧
      (Population.performAll h w orders).realms.length +
          (Population.performAll h w orders).functions.length =
        w.realms.length + w.functions.length + orders.length := by
  induction orders generalizing w with
  | nil => exact ⟨hw, rfl⟩
  | cons o orders ih =>
    obtain ⟨ho, hfit⟩ := hfit
    obtain ⟨hw', hone⟩ := hw.perform ho
    obtain ⟨hall, hrest⟩ := ih hw' hfit
    refine ⟨hall, hrest.trans ?_⟩
    rw [hone, List.length_cons]
    omega

end Settled

theorem settled_empty {s : Store} {h : HeapId} (hs : s.Linked) (hh : s.HasHeap h) :
    Settled h (s.heapSize h) { store := s } :=
  ⟨hs, hh, Nat.le_refl _, fun _ hr => absurd hr List.not_mem_nil, .nil,
    fun _ _ hc => absurd hc List.not_mem_nil, fun _ _ hc => absurd hc List.not_mem_nil,
    fun _ _ hc => absurd hc List.not_mem_nil, .nil⟩

end Population

end FunctionObjects
