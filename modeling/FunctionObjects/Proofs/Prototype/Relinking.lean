import FunctionObjects.Proofs.Prototype.Chains
import Mathlib.Logic.Relation

/-!
# When an object gets another prototype

The attempt to give an object a prototype has one of four results, which `Relinks` lists as the
standard does: if nothing would change, nothing is asked; an object that is not extensible keeps its
prototype; no object may come to inherit from itself; and otherwise the link is made. The order of
the three questions is part of the list, as each line says what the answers before it were.

The third question is answered by a walk with a bound. In a reachable store the walk sees the whole
chain, however long it is, so the answer is right (`Linked.reaches_iff`). Objects are told apart by
their places; that two of them have the same number in their heaps means nothing.
-/

namespace FunctionObjects

/-- On a chain are the nodes to which one comes from the first. -/
theorem Chain.mem_iff {α : Type} {next : α → Option α} {a b : α} {l : List α}
    (h : Chain next a l) : b ∈ l ↔ Relation.ReflTransGen (fun x y => next x = some y) a b := by
  constructor
  · intro hb
    induction h with
    | last =>
      cases List.mem_singleton.1 hb
      exact .refl
    | link hn _ ih =>
      rcases List.mem_cons.1 hb with rfl | hb
      · exact .refl
      · exact .head hn (ih hb)
  · intro hb
    induction hb with
    | refl => exact h.head_mem
    | tail _ hn ih =>
      obtain ⟨before, rest, rfl, hrest⟩ := h.tail_of_mem ih
      cases hrest with
      | last hnone =>
        rw [hnone] at hn
        cases hn
      | link hn' hc =>
        cases hn'.symm.trans hn
        simp [hc.head_mem]

namespace Store

variable {s : Store} {r q : ObjectRef} {o : Object} {p : Option ObjectRef}
  {result : EStateM.Result Error Store Unit}

/-- The object at `q` is the one at `r`, or one comes from it to that along the prototypes. -/
def Inherits (s : Store) (q r : ObjectRef) : Prop :=
  Relation.ReflTransGen (fun x y => s.prototype? x = some y) q r

/-- The walk with a bound finds every object from which another inherits. -/
theorem Linked.reaches_iff (hs : s.Linked) (hq : s.Live q) :
    s.reaches r q = true ↔ s.Inherits q r := by
  obtain ⟨l, hl⟩ := hs.ends q
  rw [hs.reaches_eq hl hq, decide_eq_true_iff, hl.mem_iff, Inherits]

/-- What comes of the attempt to give the object `o`, which is at `r`, the prototype `p`. -/
inductive Relinks (s : Store) (r : ObjectRef) (o : Object) (p : Option ObjectRef) :
    EStateM.Result Error Store Unit → Prop
  | unchanged (hp : o.prototype = p) : Relinks s r o p (.ok () s)
  | notExtensible (hp : o.prototype ≠ p) (hx : o.extensible = false) :
      Relinks s r o p (.error (.refused (.notExtensible "[[Prototype]]")) s)
  | cyclic {q : ObjectRef} (hp : o.prototype ≠ p) (hx : o.extensible = true) (hq : p = some q)
      (hin : s.Inherits q r) : Relinks s r o p (.error (.refused .cyclicPrototype) s)
  | relinked (hp : o.prototype ≠ p) (hx : o.extensible = true)
      (hout : ∀ q, p = some q → ¬ s.Inherits q r) :
      Relinks s r o p (.ok () (s.setObject r { o with prototype := p }))

/-- One of the lines always applies. -/
theorem exists_relinks (s : Store) (r : ObjectRef) (o : Object) (p : Option ObjectRef) :
    ∃ result, Relinks s r o p result := by
  by_cases hp : o.prototype = p
  · exact ⟨_, .unchanged hp⟩
  cases hx : o.extensible with
  | false => exact ⟨_, .notExtensible hp hx⟩
  | true =>
    by_cases hin : ∃ q, p = some q ∧ s.Inherits q r
    · obtain ⟨q, hq, hin⟩ := hin
      exact ⟨_, .cyclic hp hx hq hin⟩
    · exact ⟨_, .relinked hp hx fun q hq hin' => hin ⟨q, hq, hin'⟩⟩

/-- What a line says is computed. -/
theorem Relinks.setPrototype_eq (hs : s.Linked) (ho : s.object? r = some o)
    (hp : ∀ q, p = some q → s.Live q) (h : Relinks s r o p result) :
    Effect.setPrototype r p s = result := by
  simp only [Effect.setPrototype, Effect.replaceObject, withPrototype, ho]
  cases h with
  | unchanged hsame => simp [hsame, setObject_of_object? ho]
  | notExtensible hne hx => simp [hne, hx]
  | @cyclic q hne hx hq hin =>
    have hreach : s.reaches r q = true := (hs.reaches_iff (hp q hq)).2 hin
    subst hq
    simp [hne, hx, hreach]
  | relinked hne hx hout =>
    have hreach : p.any (s.reaches r) = false := by
      cases p with
      | none => rfl
      | some q =>
        rw [Option.any_some, ← Bool.not_eq_true, hs.reaches_iff (hp q rfl)]
        exact hout q rfl
    simp [hne, hx, hreach]

/-- The attempt has exactly the results that are listed. -/
theorem Linked.setPrototype_eq_iff (hs : s.Linked) (ho : s.object? r = some o)
    (hp : ∀ q, p = some q → s.Live q) :
    Effect.setPrototype r p s = result ↔ Relinks s r o p result :=
  eq_iff_of_rule (s.exists_relinks r o p) (fun _ => Relinks.setPrototype_eq hs ho hp) result

/-- The first of some handles that names nothing in a heap. -/
def firstDangling? (s : Store) (h : HeapId) (ids : List ObjectId) : Option ObjectId :=
  ids.find? fun id => decide (s.heapSize h ≤ id)

end Store

namespace Effect

variable {s : Store} {h : HeapId}

/-- Handles that name objects are resolved, and nothing is changed. -/
theorem mapM_resolve_of_lt (hs : s.Consistent) {id : Option ObjectId}
    (hlt : ∀ x, id = some x → x < s.heapSize h) :
    id.mapM (resolve h) s = .ok (id.map (.allocated h)) s := by
  cases id with
  | none => rfl
  | some x =>
    rw [Option.mapM_some]
    exact bind_of_ok (resolve_of_lt hs (hlt x rfl))

theorem mapM_resolve_of_le (hs : s.Consistent) {x : ObjectId} (hle : s.heapSize h ≤ x) :
    (some x).mapM (resolve h) s = .error (.refused (.danglingObject x)) s := by
  rw [Option.mapM_some]
  exact bind_of_error (resolve_of_le hs hle)

/-- To give an object of a heap another prototype is to look for both and to link them. -/
theorem reparent_eq (hs : s.Consistent) (h : HeapId) (id : ObjectId) (parent : Option ObjectId) :
    reparent h id parent s =
      match s.firstDangling? h (id :: parent.toList) with
      | some dangling => .error (.refused (.danglingObject dangling)) s
      | none => setPrototype (.allocated h id) (parent.map (.allocated h)) s := by
  unfold reparent Store.firstDangling?
  rcases Nat.lt_or_ge id (s.heapSize h) with hid | hid
  · rw [bind_of_ok (resolve_of_lt hs hid), List.find?_cons_of_neg (by simpa using hid)]
    by_cases hparent : ∀ x, parent = some x → x < s.heapSize h
    · have hnone : parent.toList.find? (fun id => decide (s.heapSize h ≤ id)) = none := by
        simpa using hparent
      rw [bind_of_ok (mapM_resolve_of_lt hs hparent), hnone]
    · simp only [not_forall, Nat.not_lt] at hparent
      obtain ⟨x, rfl, hx⟩ := hparent
      rw [bind_of_error (mapM_resolve_of_le hs hx)]
      simp [hx]
  · rw [bind_of_error (resolve_of_le hs hid), List.find?_cons_of_pos (by simpa using hid)]

end Effect

namespace Store

open Effect

variable {s : Store}

/-- **A new prototype is decided by the rules of the standard.** In a reachable store the attempt to
give an object a prototype, or none, has the result that the list says, and no other. Where the list
says that the link is made, no other object is changed, and the object in nothing else. To do the
same in a heap by handles fails for the first of the handles that names nothing there, and changes
nothing; if there is no such handle, it is what is done with the two objects. -/
theorem relinking_by_rule (hs : s.Reachable) :
    (∀ r o p, s.object? r = some o → (∀ q, p = some q → s.Live q) →
        (∀ result, setPrototype r p s = result ↔ s.Relinks r o p result) ∧
        ∀ r', (s.setObject r { o with prototype := p }).object? r' =
          if r' = r then some { o with prototype := p } else s.object? r') ∧
      ∀ h id parent, reparent h id parent s =
        match s.firstDangling? h (id :: parent.toList) with
        | some dangling => .error (.refused (.danglingObject dangling)) s
        | none => setPrototype (.allocated h id) (parent.map (.allocated h)) s := by
  refine ⟨fun r o p ho hp => ⟨fun result => hs.linked.setPrototype_eq_iff ho hp, fun r' => ?_⟩,
    reparent_eq hs.linked.toConsistent⟩
  rw [object?_setObject, ho, Option.map_some]

/-- In the heap 0 two objects inherit from the object 0. In the heap 1 there is an object with the
same number, and one that is not extensible and has no prototype. -/
def siblings : List Operation :=
  [.newHeap, .newHeap, .createObject 0 none, .createObject 0 (some 0), .createObject 0 (some 0),
    .createObject 1 none, .createObject 1 none, .setExtensible (.allocated 1 1) false]

/-- An object can be moved under its sibling, and under an object with its own number. An object
that is not extensible may be told to have no prototype as before, and is not asked whether it would
inherit from itself. -/
theorem relinking_by_rule_siblings :
    let s := Operation.performAll {} siblings
    let base : ObjectRef := .allocated 0 0
    let derived : ObjectRef := .allocated 0 1
    let beside : ObjectRef := .allocated 0 2
    let namesake : ObjectRef := .allocated 1 0
    let fixed : ObjectRef := .allocated 1 1
    s.Reachable ∧ ∃ o o', s.object? base = some o ∧ s.object? derived = some o' ∧
      setPrototype derived (some beside) s =
        .ok () (s.setObject derived { o' with prototype := some beside }) ∧
      setPrototype base (some namesake) s =
        .ok () (s.setObject base { o with prototype := some namesake }) ∧
      setPrototype base (some derived) s = .error (.refused .cyclicPrototype) s ∧
      setPrototype fixed none s = .ok () s ∧
      setPrototype fixed (some fixed) s =
        .error (.refused (.notExtensible "[[Prototype]]")) s ∧
      reparent 0 7 (some 9) s = .error (.refused (.danglingObject 7)) s ∧
      reparent 0 0 (some 9) s = .error (.refused (.danglingObject 9)) s ∧
      reparent 0 0 (some 1) s = .error (.refused .cyclicPrototype) s := by
  intro s base derived beside namesake fixed
  have hs : s.Reachable := Reachable.performAll (by decide +kernel)
  have hread : ∀ r : ObjectRef, ∀ p x,
      (s.object? r).map (fun o => (o.prototype, o.extensible)) = some (p, x) →
        ∃ o, s.object? r = some o ∧ o.prototype = p ∧ o.extensible = x := by
    intro r p x h
    obtain ⟨o, ho, hfields⟩ := Option.map_eq_some_iff.1 h
    exact ⟨o, ho, congrArg Prod.fst hfields, congrArg Prod.snd hfields⟩
  obtain ⟨o, ho, hp, hx⟩ := hread base none true (by decide +kernel)
  obtain ⟨o', ho', hp', hx'⟩ := hread derived (some base) true (by decide +kernel)
  obtain ⟨o'', ho'', hp'', hx''⟩ := hread fixed none false (by decide +kernel)
  have hlive : ∀ q ∈ [derived, beside, namesake, fixed], s.Live q := by decide +kernel
  have hsome : ∀ q ∈ [derived, beside, namesake, fixed], ∀ q', some q = some q' → s.Live q' := by
    rintro q hq _ ⟨⟩
    exact hlive q hq
  have hin : ∀ q ∈ [derived, beside, namesake, fixed], ∀ r,
      s.Inherits q r ↔ s.reaches r q = true := fun q hq r =>
    (hs.linked.reaches_iff (hlive q hq)).symm
  obtain ⟨hlink, hreparent⟩ := relinking_by_rule hs
  have hcyclic : setPrototype base (some derived) s = .error (.refused .cyclicPrototype) s := by
    refine ((hlink base o _ ho (hsome derived (by simp))).1 _).2 (.cyclic (by simp [hp]) hx rfl ?_)
    exact (hin derived (by simp) base).2 (by decide +kernel)
  refine ⟨hs, o, o', ho, ho', ?_, ?_, hcyclic, ?_, ?_, ?_, ?_, ?_⟩
  · refine ((hlink derived o' _ ho' (hsome beside (by simp))).1 _).2
      (.relinked (by simp [hp', base, beside]) hx' ?_)
    rintro q ⟨⟩
    rw [hin beside (by simp)]
    decide +kernel
  · refine ((hlink base o _ ho (hsome namesake (by simp))).1 _).2 (.relinked (by simp [hp]) hx ?_)
    rintro q ⟨⟩
    rw [hin namesake (by simp)]
    decide +kernel
  · exact ((hlink fixed o'' none ho'' (by simp)).1 _).2 (.unchanged hp'')
  · exact ((hlink fixed o'' _ ho'' (hsome fixed (by simp))).1 _).2
      (.notExtensible (by simp [hp'']) hx'')
  · rw [hreparent, show s.firstDangling? 0 (7 :: (some 9).toList) = some 7 by decide +kernel]
  · rw [hreparent, show s.firstDangling? 0 (0 :: (some 9).toList) = some 9 by decide +kernel]
  · rw [hreparent, show s.firstDangling? 0 (0 :: (some 1).toList) = none by decide +kernel]
    exact hcyclic

end Store

end FunctionObjects
