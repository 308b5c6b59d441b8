import FunctionObjects.Proofs.Store.Reachable

/-!
# Operations on scopes

An operation on a scope can do little to a binding that is there. If it succeeds, it has left the
binding alone, given it its first value, assigned to it or deleted it, and each of these has its
condition. `Scope.Operation.Turns` lists them, and whatever is said about bindings later on is a
case analysis over this list.

The same is done for a whole store: a change leaves a scope alone, makes it, or is one operation
in it (`Store.ScopeChange`). From this come the invariants of all scopes (`Scope.Regular`): a name
is bound once, and an immutable binding cannot be deleted.
-/

namespace FunctionObjects

namespace Scope

variable {s s' : Scope} {name : String} {b : Binding}

/-! ### The single operations -/

theorem read_of_initialized (hb : s.binding? name = some b) (hi : b.initialized = true) :
    s.read name = .ok b.value := by
  simp [Scope.read, hb, hi]

/-- What is read is the value of the binding. -/
theorem exists_binding_of_read {v : Value} (h : s.read name = .ok v) :
    ∃ b, s.binding? name = some b ∧ b.value = v := by
  unfold read at h
  split at h
  · next b hb =>
    split at h
    · cases h
      exact ⟨b, hb, rfl⟩
    · cases h
  · cases h

theorem binds_of_binding? (hb : s.binding? name = some b) : s.binds name = true := by
  rw [binds_eq_isSome, hb]
  rfl

theorem declare_cases (h : s.declare name b = .ok s') :
    s.binding? name = none ∧ s' = s.bind name b := by
  unfold declare at h
  split at h
  · cases h
  · next hn =>
    cases h
    exact ⟨by simpa [binds_eq_isSome] using hn, rfl⟩

theorem binding?_delete (s : Scope) (name name' : String) :
    (s.delete name).2.binding? name' =
      if name' = name ∧ (s.binding? name).any Binding.deletable = true then none
      else s.binding? name' := by
  unfold delete
  cases hb : s.binding? name with
  | none => simp
  | some b =>
    by_cases hd : b.deletable = true
    · simp [hd, binding?, OrderedMap.get?_erase]
    · simp [hd]

theorem initializeBinding_cases {v : Value} (h : s.initializeBinding name v = .ok s') :
    ∃ b, s.binding? name = some b ∧ b.initialized = false ∧
      s' = s.bind name { b with value := v, initialized := true } := by
  unfold initializeBinding at h
  split at h
  · next b hb =>
    split at h
    · cases h
    · next hi =>
      cases h
      exact ⟨b, hb, by simpa using hi, rfl⟩
  · cases h

/-- An assignment that succeeds has made a binding, has assigned to one, or has had no effect. -/
theorem assign_cases {v : Value} {strict : Bool} (h : s.assign name v strict = .ok s') :
    (s.binding? name = none ∧
        s' = (s.bind name { isMutable := true, deletable := true }).bind name
          { value := v, isMutable := true, initialized := true, deletable := true }) ∨
      (∃ b, s.binding? name = some b ∧ b.isMutable = true ∧ b.initialized = true ∧
        s' = s.bind name { b with value := v }) ∨
      s' = s := by
  unfold assign at h
  split at h
  · next hn =>
    split at h
    · cases h
    · obtain ⟨s₁, h₁, h⟩ := exists_of_bind_eq_ok h
      obtain ⟨-, rfl⟩ := declare_cases h₁
      obtain ⟨b, hb, -, rfl⟩ := initializeBinding_cases h
      rw [binding?_bind, if_pos rfl] at hb
      cases hb
      exact .inl ⟨hn, rfl⟩
  · next b hb =>
    split at h
    · cases h
    · next hi =>
      split at h
      · next hm =>
        cases h
        exact .inr (.inl ⟨b, hb, hm, by simpa using hi, rfl⟩)
      · split at h
        · cases h
        · cases h
          exact .inr (.inr rfl)

/-! ### What an operation does to a binding -/

/-- What an operation that succeeds makes of the binding `b` of a name. -/
inductive Operation.Turns (name : String) (b : Binding) : Operation → Option Binding → Prop
  | kept {op : Operation} : Turns name b op (some b)
  | initialized {v : Value} : b.initialized = false →
      Turns name b (.initializeBinding name v) (some { b with value := v, initialized := true })
  | assigned {v : Value} {strict : Bool} : b.isMutable = true → b.initialized = true →
      Turns name b (.assign name v strict) (some { b with value := v })
  | deleted : b.deletable = true → Turns name b (.delete name) none

namespace Operation

variable {op : Operation}

/-- Binding another name leaves a binding alone. -/
theorem turns_bind_of_ne {name' : String} {b' : Binding} (hb : s.binding? name = some b)
    (hne : name ≠ name') : op.Turns name b ((s.bind name' b').binding? name) := by
  rw [binding?_bind, if_neg hne, hb]
  exact .kept

/-- What an operation that succeeds has made of a binding that was there. -/
theorem turns (hb : s.binding? name = some b) (h : op.apply s = .ok s') :
    op.Turns name b (s'.binding? name) := by
  -- where the operation is about another name, only this name is bound otherwise
  have hne_of_none : ∀ {name'}, s.binding? name' = none → name ≠ name' := by
    rintro name' hn rfl
    rw [hb] at hn
    cases hn
  cases op with
  | declareMutable name' deletable =>
    obtain ⟨hn, rfl⟩ := declare_cases h
    exact turns_bind_of_ne hb (hne_of_none hn)
  | declareImmutable name' strict =>
    obtain ⟨hn, rfl⟩ := declare_cases h
    exact turns_bind_of_ne hb (hne_of_none hn)
  | initializeBinding name' v =>
    obtain ⟨b', hb', hi, rfl⟩ := initializeBinding_cases h
    by_cases hname : name = name'
    · subst hname
      cases hb.symm.trans hb'
      rw [binding?_bind, if_pos rfl]
      exact .initialized hi
    · exact turns_bind_of_ne hb hname
  | assign name' v strict =>
    rcases assign_cases h with ⟨hn, rfl⟩ | ⟨b', hb', hm, hi, rfl⟩ | rfl
    · have hne := hne_of_none hn
      refine turns_bind_of_ne ?_ hne
      rw [binding?_bind, if_neg hne, hb]
    · by_cases hname : name = name'
      · subst hname
        cases hb.symm.trans hb'
        rw [binding?_bind, if_pos rfl]
        exact .assigned hm hi
      · exact turns_bind_of_ne hb hname
    · rw [hb]
      exact .kept
  | delete name' =>
    cases h
    rw [binding?_delete]
    split
    · next hd =>
      obtain ⟨rfl, hd⟩ := hd
      rw [hb] at hd
      exact .deleted hd
    · rw [hb]
      exact .kept

theorem outer_of_apply (h : op.apply s = .ok s') : s'.outer = s.outer := by
  cases op with
  | declareMutable | declareImmutable =>
    obtain ⟨-, rfl⟩ := declare_cases h
    rfl
  | initializeBinding =>
    obtain ⟨b, -, -, rfl⟩ := initializeBinding_cases h
    rfl
  | assign =>
    rcases assign_cases h with ⟨-, rfl⟩ | ⟨b, -, -, -, rfl⟩ | rfl <;> rfl
  | delete name =>
    cases h
    unfold Scope.delete
    split
    · split <;> rfl
    · rfl

end Operation

/-! ### What all scopes have in common -/

/-- A name is bound once, and an immutable binding cannot be deleted. -/
structure Regular (s : Scope) : Prop where
  distinct : s.bindings.Distinct
  lasting : ∀ name b, s.binding? name = some b → b.isMutable = false → b.deletable = false

namespace Regular

theorem empty (outer : Option ScopeId) : Regular { outer } := by
  constructor
  · exact OrderedMap.distinct_empty
  · intro name b hb
    cases hb

theorem bind (hs : s.Regular) (hb : b.isMutable = false → b.deletable = false) :
    (s.bind name b).Regular := by
  constructor
  · exact hs.distinct.insert name b
  · intro name' b' hb'
    rw [binding?_bind] at hb'
    split at hb'
    · cases hb'
      exact hb
    · exact hs.lasting name' b' hb'

theorem delete (hs : s.Regular) (name : String) : (s.delete name).2.Regular := by
  constructor
  · unfold Scope.delete
    split
    · split
      · exact hs.distinct.erase name
      · exact hs.distinct
    · exact hs.distinct
  · intro name' b hb
    rw [binding?_delete] at hb
    split at hb
    · cases hb
    · exact hs.lasting name' b hb

theorem apply (hs : s.Regular) {op : Operation} (h : op.apply s = .ok s') : s'.Regular := by
  cases op with
  | declareMutable name deletable =>
    obtain ⟨-, rfl⟩ := declare_cases h
    exact hs.bind (by simp)
  | declareImmutable name strict =>
    obtain ⟨-, rfl⟩ := declare_cases h
    exact hs.bind fun _ => rfl
  | initializeBinding name v =>
    obtain ⟨b, hb, -, rfl⟩ := initializeBinding_cases h
    exact hs.bind (hs.lasting name b hb)
  | assign name v strict =>
    rcases assign_cases h with ⟨-, rfl⟩ | ⟨b, hb, -, -, rfl⟩ | rfl
    · exact (hs.bind (by simp)).bind (by simp)
    · exact hs.bind (hs.lasting name b hb)
    · exact hs
  | delete name =>
    cases h
    exact hs.delete name

end Regular

end Scope

namespace Store

variable {made : FunctionSlots → Prop} {flags : Prop} {s s' : Store} {e : ScopeId} {name : String}
  {b : Binding}

/-! ### What a change does to the scopes -/

/-- A change leaves a scope alone, makes it inside a scope that exists, or is an operation in it. -/
inductive ScopeChange (s s' : Store) (e : ScopeId) : Prop
  | same : s'.scope e = s.scope e → ScopeChange s s' e
  | new {outer : Option ScopeId} : e = s.nextScope → (∀ o, outer = some o → s.HasScope o) →
      s'.scope e = { outer } → ScopeChange s s' e
  | operated {op : Scope.Operation} : op.apply (s.scope e) = .ok (s'.scope e) → ScopeChange s s' e

theorem scope_of_not_hasScope (he : ¬ s.HasScope e) : s.scope e = {} := by
  simp [scope, Array.getElem?_eq_none (Nat.le_of_not_lt he)]

/-- Where something is bound there is a scope. -/
theorem hasScope_of_binding? (hb : (s.scope e).binding? name = some b) : s.HasScope e := by
  by_contra he
  rw [scope_of_not_hasScope he] at hb
  cases hb

theorem Change.scope (hc : Change made flags s s') (e : ScopeId) : ScopeChange s s' e := by
  cases hc with
  | @newScope outer ho =>
    by_cases he : e = s.nextScope
    · exact .new he ho ((scope_pushScope s e _).trans (if_pos he))
    · exact .same ((scope_pushScope s e _).trans (if_neg he))
  | @inScope e' op scope he' hop =>
    by_cases he : e = e'
    · subst he
      have hscope := (scope_setScope s e e scope he').trans (if_pos rfl)
      exact .operated (hop.trans (congrArg _ hscope.symm))
    · exact .same ((scope_setScope s e' e scope he').trans (if_neg he))
  | @replace r o o' => cases r <;> exact .same rfl
  | @declarePrivate p description =>
    obtain ⟨-, -, hscopes, -⟩ := declarePrivate_frame s p description
    exact .same (by rw [Store.scope, hscopes]; rfl)
  | newHeap | newLoose | newObject | newFunction | markConstructor | setHome | newPrivateScope
  | issueRealm => exact .same rfl

theorem Reachable.regular (hs : s.Reachable) (e : ScopeId) : (s.scope e).Regular := by
  have hall : ∀ e, (s.scope e).Regular := by
    refine hs.induction (P := fun s => ∀ e, (s.scope e).Regular) (fun e => .empty none) ?_
    intro s s' hs hc e
    cases hc.scope e with
    | same h => exact h ▸ hs e
    | new _ _ h => exact h ▸ .empty _
    | operated h => exact (hs e).apply h
  exact hall e

/-! ### Bindings for good -/

/-- An immutable binding that has a value and cannot be deleted is there for good. -/
theorem Changes.binding?_of_immutable (h : Changes made flags s s')
    (hb : (s.scope e).binding? name = some b) (hm : b.isMutable = false)
    (hi : b.initialized = true) (hd : b.deletable = false) :
    (s'.scope e).binding? name = some b := by
  induction h with
  | refl => exact hb
  | @tail s₁ s₂ _ hc ih =>
    cases hc.scope e with
    | same h => rwa [h]
    | new he _ _ => exact absurd (hasScope_of_binding? ih) (he ▸ Nat.lt_irrefl _)
    | operated h =>
      have hturns := Scope.Operation.turns ih h
      generalize (s₂.scope e).binding? name = after at hturns ⊢
      cases hturns with
      | kept => rfl
      | initialized hi' => simp [hi] at hi'
      | assigned hm' => simp [hm] at hm'
      | deleted hd' => simp [hd] at hd'

end Store

end FunctionObjects
