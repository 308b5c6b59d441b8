import FunctionObjects.Proofs.Scope.Chains
import FunctionObjects.Proofs.Scope.LifeCycle

/-!
# Where an operation on a scope is felt

Scopes share the scopes around them, so what is done in one scope can change the meaning of names in
many others. It changes the meaning of one name only, and only where nothing closer hides the scope:
`Sees s name e e'` says that from `e` one gets to `e'` through scopes that do not bind the name.

The meaning of a name depends on nothing but the bindings of the name in the scopes that are seen
(`Nested.lookupName_congr_of_sees`). An operation makes a difference to one of these bindings at
most, and where its scope is seen the name means what it means in the scope itself.
-/

namespace FunctionObjects

/-- The name that an operation is about. -/
def Scope.Operation.name : Scope.Operation → String
  | .declareMutable name _ => name
  | .declareImmutable name _ => name
  | .initializeBinding name _ => name
  | .assign name _ _ => name
  | .delete name => name

/-- An operation leaves the bindings of all other names alone. -/
theorem Scope.Operation.binding?_of_apply {op : Scope.Operation} {s s' : Scope}
    (h : op.apply s = .ok s') {name : String} (hname : name ≠ op.name) :
    s'.binding? name = s.binding? name := by
  cases op with
  | declareMutable name' deletable =>
    obtain ⟨-, rfl⟩ := declare_cases h
    exact (binding?_bind _ _ _ _).trans (if_neg hname)
  | declareImmutable name' strict =>
    obtain ⟨-, rfl⟩ := declare_cases h
    exact (binding?_bind _ _ _ _).trans (if_neg hname)
  | initializeBinding name' v =>
    obtain ⟨b, -, -, rfl⟩ := initializeBinding_cases h
    exact (binding?_bind _ _ _ _).trans (if_neg hname)
  | assign name' v strict =>
    have hne : name ≠ name' := hname
    rcases assign_cases h with ⟨-, rfl⟩ | ⟨b, -, -, -, rfl⟩ | rfl
    · rw [binding?_bind, if_neg hne, binding?_bind, if_neg hne]
    · rw [binding?_bind, if_neg hne]
    · rfl
  | delete name' =>
    cases h
    exact (binding?_delete _ _ _).trans (if_neg fun hd => hname hd.1)

namespace Store

variable {s s' : Store} {e e' o : ScopeId} {name : String}

/-- From the scope `e` one gets outwards to the scope `e'`, and no scope on the way, `e` included
and `e'` excluded, binds the name. -/
def Sees (s : Store) (name : String) (e e' : ScopeId) : Prop :=
  Leads s.outer? (fun x => (s.scope x).binds name = false) e' e

/-! ### The meaning of a name, scope by scope -/

/-- The way outwards can be recursed on. -/
theorem Nested.induction (hs : s.Nested) {P : ScopeId → Prop}
    (step : ∀ e, (∀ o, s.outer? e = some o → P o) → P e) (e : ScopeId) : P e := by
  obtain ⟨l, hl, -⟩ := hs.exists_chain e
  exact hl.acc.recOn fun e _ ih => step e fun o ho => ih o ho

theorem Nested.hasScope_outer (hs : s.Nested) (he : s.HasScope e) (ho : s.outer? e = some o) :
    s.HasScope o :=
  lt_trans (hs e o ho) he

/-- A name that is not bound in a scope without outer scope means nothing there. -/
theorem Nested.lookupName_of_outermost (hs : s.Nested) (he : s.HasScope e)
    (ho : s.outer? e = none) (hb : (s.scope e).binding? name = none) :
    s.lookupName e name = .error (.unresolvableReference name) := by
  rw [lookupName, hs.findScope_eq he (.last ho)]
  simp [Scope.binds_eq_false_iff.2 hb]

/-- The meaning of a name is that of its first binding, so it depends only on the bindings of the
name in the scopes that are seen. -/
theorem Nested.lookupName_congr_of_sees (hs : s.Nested) (hs' : s'.Nested)
    (hscope : ∀ x, s.HasScope x → s'.HasScope x) (houter : ∀ x, s'.outer? x = s.outer? x)
    (he : s.HasScope e)
    (hsees : ∀ x, s.Sees name e x → (s'.scope x).binding? name = (s.scope x).binding? name) :
    s'.lookupName e name = s.lookupName e name := by
  induction e using hs.induction with
  | step e ih =>
    have hsame : (s'.scope e).binding? name = (s.scope e).binding? name := hsees e .here
    cases hb : (s.scope e).binding? name with
    | some b =>
      rw [hs.lookupName_of_binding? hb, hs'.lookupName_of_binding? (hsame.trans hb), Scope.read,
        hsame, Scope.read]
    | none =>
      cases ho : s.outer? e with
      | none =>
        rw [hs.lookupName_of_outermost he ho hb,
          hs'.lookupName_of_outermost (hscope e he) ((houter e).trans ho) (hsame.trans hb)]
      | some o =>
        -- what is seen from the outer scope is seen from here too
        have hso := hs.hasScope_outer he ho
        rw [hs.lookupName_of_outer he hso ho hb, hs'.lookupName_of_outer (hscope e he)
          (hscope o hso) ((houter e).trans ho) (hsame.trans hb)]
        exact ih o ho hso fun x hx =>
          hsees x (.link (Scope.binds_eq_false_iff.2 hb) ho hx)

/-- What is seen means the same from here. -/
theorem Nested.lookupName_of_sees (hs : s.Nested) (he' : s.HasScope e')
    (hsees : s.Sees name e' e) : s.lookupName e' name = s.lookupName e name := by
  induction hsees with
  | here => rfl
  | @link x o hbinds ho _ ih =>
    have hso : s.HasScope o := hs.hasScope_outer he' ho
    rw [hs.lookupName_of_outer he' hso ho (Scope.binds_eq_false_iff.1 hbinds)]
    exact ih hso

/-! ### One operation -/

/-- An operation moves no scope, and changes one binding at most. -/
theorem scope_perform_inScope (s : Store) (e : ScopeId) (op : Scope.Operation) (x : ScopeId) :
    ((Operation.inScope e op).perform s).outer? x = s.outer? x ∧
      (x ≠ e → ((Operation.inScope e op).perform s).scope x = s.scope x) ∧
      ∀ name, name ≠ op.name →
        (((Operation.inScope e op).perform s).scope x).binding? name =
          (s.scope x).binding? name := by
  have hone : (Operation.inScope e op).perform s = s.operate [(e, op)] := rfl
  rw [hone, outer?, outer?]
  rcases scope_operate s x (e, op) with hsame | ⟨rfl, happly⟩
  · rw [hsame]
    exact ⟨rfl, fun _ => rfl, fun _ _ => rfl⟩
  · refine ⟨Scope.Operation.outer_of_apply happly, fun hne => absurd rfl hne, ?_⟩
    exact fun name hname => Scope.Operation.binding?_of_apply happly hname

/-- A scope is seen from where it was seen before something was done in it. -/
theorem sees_perform_inScope {op : Scope.Operation} (hsees : s.Sees name e' e) :
    ((Operation.inScope e op).perform s).Sees name e' e := by
  induction hsees with
  | here => exact .here
  | @link x o hbinds ho _ ih =>
    by_cases hxe : x = e
    · exact hxe ▸ .here
    · obtain ⟨houter, hothers, -⟩ := scope_perform_inScope s e op x
      exact .link (by rw [hothers hxe]; exact hbinds) (houter.trans ho) ih

/-- **An operation on a scope is felt where the scope is seen, and nowhere else.** Take an operation
on a scope of a reachable store, and any scope to look from. Only the name of the operation can come
to mean anything else there, and only if the scope of the operation is seen from there. If it is,
the name means there afterwards what it means in the scope of the operation. -/
theorem operation_felt_where_seen (hs : s.Reachable) (he : s.HasScope e) (he' : s.HasScope e')
    (op : Scope.Operation) :
    let s' := (Operation.inScope e op).perform s
    (∀ name, s'.lookupName e' name ≠ s.lookupName e' name →
        name = op.name ∧ s.Sees op.name e' e) ∧
      (s.Sees op.name e' e → s'.lookupName e' op.name = s'.lookupName e op.name) := by
  intro s'
  have hnested : s.Nested := hs.nested
  have hnested' : s'.Nested := (hs.perform (.inScope e op) he).nested
  have hscope : ∀ x, s.HasScope x → s'.HasScope x := fun x hx =>
    (hasScope_operate s x [(e, op)]).2 hx
  have houter : ∀ x, s'.outer? x = s.outer? x := fun x => (scope_perform_inScope s e op x).1
  constructor
  · intro name hchanged
    by_contra hnot
    refine hchanged (hnested.lookupName_congr_of_sees hnested' hscope houter he' fun x hx => ?_)
    -- a binding that is seen and differs would be that of the operation
    obtain ⟨-, hothers, hnames⟩ := scope_perform_inScope s e op x
    by_cases hxe : x = e
    · subst hxe
      refine hnames name fun hname => hnot ⟨hname, ?_⟩
      rwa [← hname]
    · rw [show s'.scope x = s.scope x from hothers hxe]
  · intro hsees
    exact hnested'.lookupName_of_sees (hscope e' he') (sees_perform_inScope hsees)

/-- The scopes 1 and 3 are inside the scope 0, and the scope 2 is inside the scope 1. The scopes 0
and 1 bind the same name. -/
def sharedScopes : List Operation :=
  [.newScope none, .newScope (some ⟨0⟩), .newScope (some ⟨1⟩), .newScope (some ⟨0⟩),
    .inScope ⟨0⟩ (.assign "x" (.boolean true) false), .inScope ⟨1⟩ (.assign "x" .null false)]

/-- Deleting the inner binding uncovers the outer one for the scope inside, and is not felt in the
scope beside. -/
theorem operation_felt_where_seen_delete :
    let s := Operation.performAll {} sharedScopes
    let s' := (Operation.inScope ⟨1⟩ (.delete "x")).perform s
    s.Reachable ∧ s.HasScope ⟨1⟩ ∧ s.HasScope ⟨2⟩ ∧ s.HasScope ⟨3⟩ ∧
      s.lookupName ⟨2⟩ "x" = .ok .null ∧ s.Sees "x" ⟨2⟩ ⟨1⟩ ∧
      s'.lookupName ⟨2⟩ "x" = s'.lookupName ⟨1⟩ "x" ∧
      s'.lookupName ⟨1⟩ "x" = .ok (.boolean true) ∧
      s'.lookupName ⟨3⟩ "x" = s.lookupName ⟨3⟩ "x" := by
  intro s s'
  have hs : s.Reachable := Reachable.performAll (by decide +kernel)
  have h₁ : s.HasScope ⟨1⟩ := by decide +kernel
  have h₂ : s.HasScope ⟨2⟩ := by decide +kernel
  have h₃ : s.HasScope ⟨3⟩ := by decide +kernel
  have hsees : s.Sees "x" ⟨2⟩ ⟨1⟩ := .link (by decide +kernel) (by decide +kernel) .here
  have hbeside : ¬ s.Sees "x" ⟨3⟩ ⟨1⟩ := by
    intro h
    -- the first scope outwards binds the name already
    rcases h with _ | ⟨-, ho, h⟩
    have ho₃ : s.outer? ⟨3⟩ = some ⟨0⟩ := by decide +kernel
    cases ho₃.symm.trans ho
    rcases h with _ | ⟨hbinds, -, -⟩
    have hbinds₀ : (s.scope ⟨0⟩).binds "x" = true := by decide +kernel
    rw [hbinds₀] at hbinds
    cases hbinds
  obtain ⟨-, hinside⟩ := operation_felt_where_seen hs h₁ h₂ (.delete "x")
  obtain ⟨hchanged, -⟩ := operation_felt_where_seen hs h₁ h₃ (.delete "x")
  refine ⟨hs, h₁, h₂, h₃, by decide +kernel, hsees, hinside hsees, by decide +kernel, ?_⟩
  by_contra hne
  exact hbeside (hchanged "x" hne).2

end Store

end FunctionObjects
