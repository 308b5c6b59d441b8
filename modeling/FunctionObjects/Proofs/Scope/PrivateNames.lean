import FunctionObjects.Proofs.Store.Reachable
import FunctionObjects.Scope.Resolution
import Mathlib.Data.List.Nodup

/-!
# Private names

One counter gives all private scopes their numbers, while each scope looks for a description among
its own names only. `PrivateChange` says what a change of a store can do to the private scopes: put
an empty one at the end, or put a name with the next number at the end of one that does not have its
description yet.

So the numbers of all names differ (`PrivateNames`), names stay where they are, and, as a scope lies
inside an older one, a description means the name that the innermost scope declaring it gave it.
-/

namespace FunctionObjects

namespace PrivateScope

theorem find?_eq_none_iff {s : PrivateScope} {description : String} :
    s.find? description = none ↔ ¬ ∃ name ∈ s.names, name.description = description := by
  simp [find?]

/-- Where no description occurs twice, the name that is found is the one with the description. -/
theorem find?_eq_some_iff {s : PrivateScope} (hs : (s.names.map PrivateName.description).Nodup)
    {description : String} {name : PrivateName} :
    s.find? description = some name ↔ name ∈ s.names ∧ name.description = description := by
  constructor
  · intro hfind
    exact ⟨List.mem_of_find?_eq_some hfind, by simpa using List.find?_some hfind⟩
  · rintro ⟨hmem, hdescription⟩
    cases hfind : s.find? description with
    | none => exact absurd ⟨name, hmem, hdescription⟩ (find?_eq_none_iff.1 hfind)
    | some found =>
      have hfound : found.description = description := by simpa using List.find?_some hfind
      rw [List.inj_on_of_nodup_map hs (List.mem_of_find?_eq_some hfind) hmem
        (hfound.trans hdescription.symm)]

end PrivateScope

namespace Store

variable {made : FunctionSlots → Prop} {flags : Prop} {s s' : Store} {p p' q q' : PrivateScopeId}
  {d : String} {name name' : PrivateName}

/-- The private scope itself declares the description. -/
def DeclaresPrivate (s : Store) (p : PrivateScopeId) (d : String) : Prop :=
  ∃ name ∈ (s.privateScope p).names, name.description = d

/-- From the private scope `p` outwards, `q` is the first that declares the description. -/
def NearestPrivate (s : Store) (d : String) (p q : PrivateScopeId) : Prop :=
  s.DeclaresPrivate q d ∧ Leads s.outerPrivate? (fun x => ¬ s.DeclaresPrivate x d) q p

theorem find?_privateScope_eq_none_iff :
    (s.privateScope p).find? d = none ↔ ¬ s.DeclaresPrivate p d :=
  PrivateScope.find?_eq_none_iff

/-! ### What a change does to the private scopes -/

/-- A new private scope is the last; every other place holds what it held. -/
theorem privateScope_pushPrivateScope (s : Store) (p : PrivateScopeId) (scope : PrivateScope) :
    (s.pushPrivateScope scope).privateScope p =
      if p = s.nextPrivateScope then scope else s.privateScope p := by
  obtain ⟨n⟩ := p
  simp only [privateScope, pushPrivateScope, nextPrivateScope, Array.getElem?_push,
    PrivateScopeId.mk.injEq]
  split <;> rfl

/-- A description that the scope declares already keeps its name, and the store stays as it is. -/
theorem declarePrivate_of_find? (h : (s.privateScope p).find? d = some name) :
    s.declarePrivate p d = (name, s) := by
  rw [declarePrivate, h]

/-- A description that the scope does not declare gets a name with the next number. -/
theorem declarePrivate_of_not_declares (h : ¬ s.DeclaresPrivate p d) :
    s.declarePrivate p d =
      (⟨s.privateNamesIssued + 1, d⟩,
        { s with
          privateScopes := s.privateScopes.modify p.index fun scope =>
            scope.add ⟨s.privateNamesIssued + 1, d⟩
          privateNamesIssued := s.privateNamesIssued + 1 }) := by
  rw [declarePrivate, find?_privateScope_eq_none_iff.2 h]

/-- The new name is the last of its scope, and all other scopes are as they were. -/
theorem privateScope_declarePrivate (hp : s.HasPrivateScope p) (h : ¬ s.DeclaresPrivate p d)
    (q : PrivateScopeId) :
    (s.declarePrivate p d).2.privateScope q =
      if q = p then (s.privateScope p).add ⟨s.privateNamesIssued + 1, d⟩
      else s.privateScope q := by
  obtain ⟨n⟩ := p
  obtain ⟨m⟩ := q
  rw [declarePrivate_of_not_declares h]
  simp only [privateScope, Array.getElem?_modify, PrivateScopeId.mk.injEq]
  by_cases hmn : m = n
  · subst hmn
    simp [Array.getElem?_eq_getElem hp]
  · simp [hmn, Ne.symm hmn]

/-- A change leaves all private scopes as they are, puts an empty one behind them, or declares one
name that is new in its scope. -/
inductive PrivateChange (s s' : Store) : Prop
  | none : (∀ q, s'.privateScope q = s.privateScope q) →
      s'.privateNamesIssued = s.privateNamesIssued → PrivateChange s s'
  | new {outer : Option PrivateScopeId} : (∀ o, outer = some o → s.HasPrivateScope o) →
      (∀ q, s'.privateScope q = if q = s.nextPrivateScope then { outer } else s.privateScope q) →
      s'.privateNamesIssued = s.privateNamesIssued → PrivateChange s s'
  | declared {p : PrivateScopeId} {d : String} : s.HasPrivateScope p → ¬ s.DeclaresPrivate p d →
      (∀ q, s'.privateScope q =
        if q = p then (s.privateScope p).add ⟨s.privateNamesIssued + 1, d⟩
        else s.privateScope q) →
      s'.privateNamesIssued = s.privateNamesIssued + 1 → PrivateChange s s'

theorem Change.privateScopes (hc : Change made flags s s') : PrivateChange s s' := by
  cases hc with
  | newHeap => exact .none (fun _ => rfl) rfl
  | newLoose => exact .none (fun _ => rfl) rfl
  | newObject => exact .none (fun _ => rfl) rfl
  | newFunction => exact .none (fun _ => rfl) rfl
  | markConstructor => exact .none (fun _ => rfl) rfl
  | setHome => exact .none (fun _ => rfl) rfl
  | @replace r => cases r <;> exact .none (fun _ => rfl) rfl
  | newScope => exact .none (fun _ => rfl) rfl
  | inScope => exact .none (fun _ => rfl) rfl
  | newPrivateScope houter =>
    exact .new houter (fun q => privateScope_pushPrivateScope s q _) rfl
  | @declarePrivate p d hp =>
    by_cases h : s.DeclaresPrivate p d
    · obtain ⟨name, hname⟩ : ∃ name, (s.privateScope p).find? d = some name := by
        rw [← Option.ne_none_iff_exists']
        exact fun hnone => find?_privateScope_eq_none_iff.1 hnone h
      rw [declarePrivate_of_find? hname]
      exact .none (fun _ => rfl) rfl
    · refine .declared hp h (privateScope_declarePrivate hp h) ?_
      rw [declarePrivate_of_not_declares h]
  | issueRealm => exact .none (fun _ => rfl) rfl

/-- There is nothing where there is no private scope. -/
theorem privateScope_nextPrivateScope (s : Store) : s.privateScope s.nextPrivateScope = {} := by
  simp [privateScope, nextPrivateScope]

/-! ### Names stay -/

/-- Names are neither removed nor changed, and new ones come behind them. A scope stays inside the
scope that it was made in. -/
theorem Change.names_isPrefix (hc : Change made flags s s') (hp : s.HasPrivateScope p) :
    (s.privateScope p).names <+: (s'.privateScope p).names ∧
      s'.outerPrivate? p = s.outerPrivate? p := by
  cases hc.privateScopes with
  | none h => rw [outerPrivate?, outerPrivate?, h]; exact ⟨List.prefix_rfl, rfl⟩
  | new _ h =>
    have hne : p ≠ s.nextPrivateScope := by
      rintro rfl
      exact lt_irrefl _ hp
    rw [outerPrivate?, outerPrivate?, h, if_neg hne]
    exact ⟨List.prefix_rfl, rfl⟩
  | @declared p' d _ _ h =>
    rw [outerPrivate?, outerPrivate?, h]
    split
    · next hpp =>
      subst hpp
      exact ⟨List.prefix_append _ _, rfl⟩
    · exact ⟨List.prefix_rfl, rfl⟩

theorem Changes.names_isPrefix (h : Changes made flags s s') (hp : s.HasPrivateScope p) :
    (s.privateScope p).names <+: (s'.privateScope p).names ∧
      s'.outerPrivate? p = s.outerPrivate? p := by
  induction h with
  | refl => exact ⟨List.prefix_rfl, rfl⟩
  | tail hbefore hc ih =>
    have hp' := lt_of_lt_of_le hp (Changes.grows hbefore).privateScopes
    obtain ⟨hnames, houter⟩ := hc.names_isPrefix hp'
    exact ⟨ih.1.trans hnames, houter.trans ih.2⟩

/-! ### Names are told apart -/

/-- What holds of the private names of a store: their numbers have been given out, no number has
been given out twice, in a scope no description has two names, and every scope lies inside an older
one or none. -/
structure PrivateNames (s : Store) : Prop where
  issued : ∀ p, ∀ name ∈ (s.privateScope p).names, name.id ≤ s.privateNamesIssued
  ids : ∀ p q (i j : Nat) (name name' : PrivateName), (s.privateScope p).names[i]? = some name →
    (s.privateScope q).names[j]? = some name' → name.id = name'.id → p = q ∧ i = j
  descriptions : ∀ p, ((s.privateScope p).names.map PrivateName.description).Nodup
  outer : ∀ p o, s.outerPrivate? p = some o → o.index < p.index

theorem privateNames_empty : PrivateNames {} := by
  have hnone : ∀ p, privateScope {} p = {} := fun p => by simp [privateScope]
  refine ⟨?_, ?_, ?_, ?_⟩
  · intro p name hname
    rw [hnone] at hname
    cases hname
  · intro p q i j name name' hname
    simp [hnone] at hname
  · intro p
    simp [hnone]
  · intro p o ho
    rw [outerPrivate?, hnone] at ho
    cases ho

namespace PrivateNames

theorem of_new (hs : s.PrivateNames) {outer : Option PrivateScopeId}
    (houter : ∀ o, outer = some o → s.HasPrivateScope o)
    (h : ∀ q, s'.privateScope q = if q = s.nextPrivateScope then { outer } else s.privateScope q)
    (hissued : s'.privateNamesIssued = s.privateNamesIssued) : s'.PrivateNames := by
  -- the new scope has no names, and neither had its place before
  have hnames : ∀ q, (s'.privateScope q).names = (s.privateScope q).names := by
    intro q
    rw [h]
    split
    · next hq => rw [hq, privateScope_nextPrivateScope]
    · rfl
  refine ⟨?_, ?_, ?_, ?_⟩
  · simpa only [hnames, hissued] using hs.issued
  · simpa only [hnames] using hs.ids
  · simpa only [hnames] using hs.descriptions
  · intro p o ho
    rw [outerPrivate?, h] at ho
    split at ho
    · next hp =>
      subst hp
      exact houter o ho
    · exact hs.outer p o ho

theorem of_declared (hs : s.PrivateNames) (h : ¬ s.DeclaresPrivate p d)
    (hscope : ∀ q, s'.privateScope q =
      if q = p then (s.privateScope p).add ⟨s.privateNamesIssued + 1, d⟩ else s.privateScope q)
    (hissued : s'.privateNamesIssued = s.privateNamesIssued + 1) : s'.PrivateNames := by
  -- an entry was there before, or is the new one
  have hentry : ∀ q (i : Nat) (name : PrivateName), (s'.privateScope q).names[i]? = some name →
      ((s.privateScope q).names[i]? = some name ∧ name.id ≤ s.privateNamesIssued) ∨
        (q = p ∧ i = (s.privateScope p).names.length ∧ name.id = s.privateNamesIssued + 1) := by
    intro q i name hname
    have hold : (s.privateScope q).names[i]? = some name →
        (s.privateScope q).names[i]? = some name ∧ name.id ≤ s.privateNamesIssued := fun hi =>
      ⟨hi, hs.issued q name (List.mem_of_getElem? hi)⟩
    rw [hscope] at hname
    split at hname
    · next hq =>
      subst hq
      rw [PrivateScope.add, List.getElem?_append] at hname
      split at hname
      · exact .inl (hold hname)
      · next hi =>
        rw [List.getElem?_singleton] at hname
        split at hname
        · cases hname
          exact .inr ⟨rfl, by omega, rfl⟩
        · cases hname
    · exact .inl (hold hname)
  refine ⟨?_, ?_, ?_, ?_⟩
  · intro q name hname
    obtain ⟨i, hi⟩ := List.mem_iff_getElem?.1 hname
    rcases hentry q i name hi with ⟨-, hle⟩ | ⟨-, -, hid⟩ <;> omega
  · intro q q' i j name name' hname hname' hid
    rcases hentry q i name hname with ⟨hi, hle⟩ | ⟨rfl, rfl, hnew⟩ <;>
      rcases hentry q' j name' hname' with ⟨hj, hle'⟩ | ⟨rfl, rfl, hnew'⟩
    · exact hs.ids q q' i j name name' hi hj hid
    · omega
    · omega
    · exact ⟨rfl, rfl⟩
  · intro q
    rw [hscope]
    split
    · rw [PrivateScope.add, List.map_append, List.nodup_append]
      refine ⟨hs.descriptions p, by simp, fun x hx y hy => ?_⟩
      obtain ⟨name, hname, rfl⟩ := List.mem_map.1 hx
      cases List.mem_singleton.1 hy
      exact fun heq => h ⟨name, hname, heq⟩
    · exact hs.descriptions q
  · intro q o ho
    rw [outerPrivate?, hscope] at ho
    split at ho
    · next hq =>
      subst hq
      exact hs.outer q o ho
    · exact hs.outer q o ho

theorem change (hs : s.PrivateNames) (hc : Change made flags s s') : s'.PrivateNames := by
  cases hc.privateScopes with
  | none h hissued =>
    refine ⟨?_, ?_, ?_, ?_⟩
    · simpa only [h, hissued] using hs.issued
    · simpa only [h] using hs.ids
    · simpa only [h] using hs.descriptions
    · simpa only [outerPrivate?, h] using hs.outer
  | new houter h hissued => exact hs.of_new houter h hissued
  | declared _ h hscope hissued => exact hs.of_declared h hscope hissued

end PrivateNames

theorem Reachable.privateNames (hs : s.Reachable) : s.PrivateNames :=
  hs.induction privateNames_empty fun _ _ ih hc => ih.change hc

/-! ### What a description means -/

namespace PrivateNames

/-- The way outwards ends, and what a description means is found on it. -/
theorem exists_chain (hs : s.PrivateNames) (hp : s.HasPrivateScope p) :
    ∃ l, Chain s.outerPrivate? p l ∧
      ∀ d, s.lookupPrivate p d = l.findSome? fun q => (s.privateScope q).find? d := by
  obtain ⟨l, hl, hlength, -⟩ := Chain.exists_of_index_lt hs.outer p
  exact ⟨l, hl, fun d => firstAlong_eq_findSome? hl (hlength.trans hp)⟩

/-- A description means the name that the nearest scope declaring it gave it. -/
theorem lookupPrivate_eq_some_iff (hs : s.PrivateNames) (hp : s.HasPrivateScope p) :
    s.lookupPrivate p d = some name ↔
      ∃ q, s.NearestPrivate d p q ∧ name ∈ (s.privateScope q).names ∧ name.description = d := by
  obtain ⟨l, hl, hlookup⟩ := hs.exists_chain hp
  rw [hlookup, hl.findSome?_eq_some_iff]
  simp only [find?_privateScope_eq_none_iff, PrivateScope.find?_eq_some_iff (hs.descriptions _)]
  constructor
  · rintro ⟨q, hname, hleads⟩
    exact ⟨q, ⟨⟨name, hname⟩, hleads⟩, hname⟩
  · rintro ⟨q, ⟨-, hleads⟩, hname⟩
    exact ⟨q, hname, hleads⟩

/-- A number tells the nearest scopes of two descriptions apart. -/
theorem id_eq_iff (hs : s.PrivateNames) (hp : s.HasPrivateScope p) (hp' : s.HasPrivateScope p')
    (h : s.lookupPrivate p d = some name) (h' : s.lookupPrivate p' d = some name') :
    name.id = name'.id ↔ ∃ q, s.NearestPrivate d p q ∧ s.NearestPrivate d p' q := by
  obtain ⟨q, hq, hname, hd⟩ := (hs.lookupPrivate_eq_some_iff hp).1 h
  obtain ⟨q', hq', hname', hd'⟩ := (hs.lookupPrivate_eq_some_iff hp').1 h'
  constructor
  · intro hid
    obtain ⟨i, hi⟩ := List.mem_iff_getElem?.1 hname
    obtain ⟨j, hj⟩ := List.mem_iff_getElem?.1 hname'
    obtain ⟨rfl, -⟩ := hs.ids q q' i j name name' hi hj hid
    exact ⟨q, hq, hq'⟩
  · rintro ⟨x, hx, hx'⟩
    have hqx : q = x := hq.2.unique hx.2 (not_not.2 hq.1) (not_not.2 hx.1)
    have hqx' : q' = x := hq'.2.unique hx'.2 (not_not.2 hq'.1) (not_not.2 hx'.1)
    subst hqx hqx'
    rw [List.inj_on_of_nodup_map (hs.descriptions _) hname hname' (hd.trans hd'.symm)]

/-- The way outwards ends, and a description means nothing where no scope on it declares it. -/
theorem lookupPrivate_eq_none_iff (hs : s.PrivateNames) (hp : s.HasPrivateScope p) :
    ∃ l, Chain s.outerPrivate? p l ∧
      ∀ d, s.lookupPrivate p d = none ↔ ∀ q ∈ l, ¬ s.DeclaresPrivate q d := by
  obtain ⟨l, hl, hlookup⟩ := hs.exists_chain hp
  refine ⟨l, hl, fun d => ?_⟩
  rw [hlookup, List.findSome?_eq_none_iff]
  simp only [find?_privateScope_eq_none_iff]

end PrivateNames

/-! ### The result -/

/-- What declaring a description in a private scope gives. If the scope declares it already, it is
the name that it has, and nothing changes. If not, it is a name with a number greater than that of
any name there is; it comes behind the names of the scope, and the other scopes stay as they are. -/
inductive Declaration (s : Store) (p : PrivateScopeId) (d : String) : PrivateName × Store → Prop
  | known {name : PrivateName} : name ∈ (s.privateScope p).names → name.description = d →
      Declaration s p d (name, s)
  | added {name : PrivateName} {s' : Store} : ¬ s.DeclaresPrivate p d → name.description = d →
      (∀ q, ∀ old ∈ (s.privateScope q).names, old.id < name.id) →
      s'.privateScope p = (s.privateScope p).add name →
      (∀ q, q ≠ p → s'.privateScope q = s.privateScope q) → Declaration s p d (name, s')

theorem PrivateNames.declaration (hs : s.PrivateNames) (hp : s.HasPrivateScope p) (d : String) :
    Declaration s p d (s.declarePrivate p d) := by
  cases hfind : (s.privateScope p).find? d with
  | some name =>
    obtain ⟨hname, hd⟩ := (PrivateScope.find?_eq_some_iff (hs.descriptions p)).1 hfind
    rw [declarePrivate_of_find? hfind]
    exact .known hname hd
  | none =>
    have hnot : ¬ s.DeclaresPrivate p d := find?_privateScope_eq_none_iff.1 hfind
    have hscope := privateScope_declarePrivate hp hnot
    have hpair : s.declarePrivate p d =
        (⟨s.privateNamesIssued + 1, d⟩, (s.declarePrivate p d).2) := by
      rw [declarePrivate_of_not_declares hnot]
    rw [hpair]
    refine .added hnot rfl ?_ ((hscope p).trans (if_pos rfl)) fun q hq =>
      (hscope q).trans (if_neg hq)
    exact fun q old hold => Nat.lt_succ_of_le (hs.issued q old hold)

/-- **Private names are told apart, stay, and mean the innermost declaration.** In a reachable store
no number is given to two names and in a scope no description has two names. Whatever is done later,
the names of a scope stay in their order, and new ones come behind them. Declaring a description
makes a name only if the scope has none with it. Going outwards from a scope comes to an end, and a
description means what the first scope on the way that declares it has made it mean, or nothing if
there is none. So the same description means two names with one number exactly where the nearest
declarations are those of one scope. -/
theorem private_names_told_apart (hs : s.Reachable) :
    s.PrivateNames ∧
      (∀ ops, Operation.FitAll s ops → ∀ p, s.HasPrivateScope p →
        (s.privateScope p).names <+: ((Operation.performAll s ops).privateScope p).names ∧
          (Operation.performAll s ops).outerPrivate? p = s.outerPrivate? p) ∧
      ∀ p, s.HasPrivateScope p →
        (∀ d, Declaration s p d (s.declarePrivate p d)) ∧
        (∃ l, Chain s.outerPrivate? p l ∧
          ∀ d, s.lookupPrivate p d = none ↔ ∀ q ∈ l, ¬ s.DeclaresPrivate q d) ∧
        (∀ d name, s.lookupPrivate p d = some name ↔
          ∃ q, s.NearestPrivate d p q ∧ name ∈ (s.privateScope q).names ∧
            name.description = d) ∧
        ∀ p' d name name', s.HasPrivateScope p' → s.lookupPrivate p d = some name →
          s.lookupPrivate p' d = some name' →
          (name.id = name'.id ↔ ∃ q, s.NearestPrivate d p q ∧ s.NearestPrivate d p' q) := by
  have hnames : s.PrivateNames := hs.privateNames
  refine ⟨hnames, fun ops hops p hp => ?_, fun p hp => ⟨?_, ?_, ?_, ?_⟩⟩
  · exact (Steps.performAll hops).changes.names_isPrefix hp
  · exact hnames.declaration hp
  · exact hnames.lookupPrivate_eq_none_iff hp
  · exact fun d name => hnames.lookupPrivate_eq_some_iff hp
  · exact fun p' d name name' hp' h h' => hnames.id_eq_iff hp hp' h h'

/-- Two class bodies, one inside the other, and a third one beside them. The inner one declares no
`x`; the other two declare an `x` each. -/
def classBodies : List Operation :=
  [.newPrivateScope none, .newPrivateScope (some ⟨0⟩), .newPrivateScope none,
    .declarePrivate ⟨0⟩ "x", .declarePrivate ⟨1⟩ "y", .declarePrivate ⟨2⟩ "x",
    .declarePrivate ⟨0⟩ "x"]

/-- The inner body means the `x` of the outer one, and not that of the body beside. An `x` of its
own would have a new number. -/
theorem private_names_told_apart_nested :
    let s := Operation.performAll {} classBodies
    s.Reachable ∧ s.HasPrivateScope ⟨0⟩ ∧ s.HasPrivateScope ⟨1⟩ ∧ s.HasPrivateScope ⟨2⟩ ∧
      s.lookupPrivate ⟨1⟩ "x" = some ⟨1, "x"⟩ ∧ s.lookupPrivate ⟨2⟩ "x" = some ⟨3, "x"⟩ ∧
      (∃ q, s.NearestPrivate "x" ⟨1⟩ q ∧ s.NearestPrivate "x" ⟨0⟩ q) ∧
      (¬ ∃ q, s.NearestPrivate "x" ⟨1⟩ q ∧ s.NearestPrivate "x" ⟨2⟩ q) ∧
      (s.declarePrivate ⟨1⟩ "x").1 = ⟨4, "x"⟩ ∧
      Declaration s ⟨1⟩ "x" (s.declarePrivate ⟨1⟩ "x") := by
  intro s
  have hs : s.Reachable := Reachable.performAll (by decide +kernel)
  have h₀ : s.HasPrivateScope ⟨0⟩ := by decide +kernel
  have h₁ : s.HasPrivateScope ⟨1⟩ := by decide +kernel
  have h₂ : s.HasPrivateScope ⟨2⟩ := by decide +kernel
  have hx₀ : s.lookupPrivate ⟨0⟩ "x" = some ⟨1, "x"⟩ := by decide +kernel
  have hx₁ : s.lookupPrivate ⟨1⟩ "x" = some ⟨1, "x"⟩ := by decide +kernel
  have hx₂ : s.lookupPrivate ⟨2⟩ "x" = some ⟨3, "x"⟩ := by decide +kernel
  obtain ⟨-, -, hscopes⟩ := private_names_told_apart hs
  obtain ⟨hdeclare, -, -, hids⟩ := hscopes ⟨1⟩ h₁
  refine ⟨hs, h₀, h₁, h₂, hx₁, hx₂, ?_, ?_, by decide +kernel, hdeclare "x"⟩
  · exact (hids ⟨0⟩ "x" _ _ h₀ hx₁ hx₀).1 rfl
  · rw [← hids ⟨2⟩ "x" _ _ h₂ hx₁ hx₂]
    decide

end Store

end FunctionObjects
