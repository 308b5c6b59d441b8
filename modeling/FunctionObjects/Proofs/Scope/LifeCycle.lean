import FunctionObjects.Proofs.Scope.Operations

/-!
# The life of a binding

A run is a series of operations in the scopes of a store, in any order and in any of the scopes. An
operation that fails changes nothing, and the run goes on. What a run does to a binding is followed
from one operation to the next with `Scope.Operation.Turns`.

A binding that can be deleted may make room for another one of the same name with other flags.
What is said about a binding that could be deleted is therefore said for the time while it is there:
the name must be bound throughout the run (`BoundThroughout`).
-/

namespace FunctionObjects

/-- What can become of a binding while it is there. Its flags stay, it does not lose its value, and
the value of an immutable one stays. -/
structure Binding.Becomes (b b' : Binding) : Prop where
  isMutable : b'.isMutable = b.isMutable
  strict : b'.strict = b.strict
  deletable : b'.deletable = b.deletable
  initialized : b.initialized = true → b'.initialized = true
  value : b.isMutable = false → b.initialized = true → b'.value = b.value

namespace Binding.Becomes

variable {b b' b'' : Binding}

theorem refl (b : Binding) : Becomes b b := ⟨rfl, rfl, rfl, id, fun _ _ => rfl⟩

theorem trans (h : Becomes b b') (h' : Becomes b' b'') : Becomes b b'' where
  isMutable := h'.isMutable.trans h.isMutable
  strict := h'.strict.trans h.strict
  deletable := h'.deletable.trans h.deletable
  initialized hi := h'.initialized (h.initialized hi)
  value hm hi := (h'.value (h.isMutable.trans hm) (h.initialized hi)).trans (h.value hm hi)

end Binding.Becomes

namespace Scope

variable {s s' : Scope} {name : String} {b b' : Binding} {op : Operation}

/-- The binding of the name has no value, so it can be neither read nor assigned. -/
structure Waits (s : Scope) (name : String) : Prop where
  read : s.read name = .error (.uninitializedBinding name)
  assign : ∀ v strict, s.assign name v strict = .error (.uninitializedBinding name)

/-- The operation makes a binding of the name that cannot be deleted. -/
inductive Operation.MakesLasting (name : String) : Operation → Prop
  | declareMutable : MakesLasting name (.declareMutable name false)
  | declareImmutable (strict : Bool) : MakesLasting name (.declareImmutable name strict)

theorem waits_of_not_initialized (hb : s.binding? name = some b) (hi : b.initialized = false) :
    s.Waits name := by
  constructor
  · simp [Scope.read, hb, hi]
  · intro v strict
    simp [Scope.assign, hb, hi]

theorem initializeBinding_of_initialized (hb : s.binding? name = some b)
    (hi : b.initialized = true) (v : Value) :
    s.initializeBinding name v = .error (.uninitializedBinding name) := by
  simp [initializeBinding, hb, hi]

theorem initializeBinding_of_not_initialized (hb : s.binding? name = some b)
    (hi : b.initialized = false) (v : Value) :
    s.initializeBinding name v = .ok (s.bind name { b with value := v, initialized := true }) := by
  simp [initializeBinding, hb, hi]

namespace Operation

theorem MakesLasting.binding? (hop : op.MakesLasting name) (h : op.apply s = .ok s') :
    ∃ b, s'.binding? name = some b ∧ b.deletable = false := by
  cases hop with
  | declareMutable =>
    obtain ⟨-, rfl⟩ := declare_cases h
    exact ⟨_, (binding?_bind _ _ _ _).trans (if_pos rfl), rfl⟩
  | declareImmutable strict =>
    obtain ⟨-, rfl⟩ := declare_cases h
    exact ⟨_, (binding?_bind _ _ _ _).trans (if_pos rfl), rfl⟩

theorem Turns.becomes (h : op.Turns name b (some b')) : b.Becomes b' := by
  cases h with
  | kept => exact .refl b
  | initialized hi => exact ⟨rfl, rfl, rfl, fun _ => rfl, fun _ hi' => by simp [hi] at hi'⟩
  | assigned hm _ => exact ⟨rfl, rfl, rfl, id, fun hm' => by simp [hm] at hm'⟩

theorem Turns.exists_of_not_deletable {after : Option Binding} (h : op.Turns name b after)
    (hd : b.deletable = false) : ∃ b', after = some b' := by
  cases h with
  | kept | initialized | assigned => exact ⟨_, rfl⟩
  | deleted hd' => simp [hd] at hd'

/-- Only an initialization and a deletion make a difference to a binding without a value. -/
theorem Turns.cases_of_not_initialized {after : Option Binding} (h : op.Turns name b after)
    (hi : b.initialized = false) :
    after = some b ∨ (∃ v, op = .initializeBinding name v) ∨ after = none := by
  cases h with
  | kept => exact .inl rfl
  | initialized => exact .inr (.inl ⟨_, rfl⟩)
  | assigned _ hi' => simp [hi] at hi'
  | deleted => exact .inr (.inr rfl)

end Operation

end Scope

namespace Store

variable {s : Store} {e : ScopeId} {name : String} {b : Binding}
  {step : ScopeId × Scope.Operation} {run : List (ScopeId × Scope.Operation)}

/-! ### Runs -/

/-- A run as a series of operations on the store. -/
def inScopes (run : List (ScopeId × Scope.Operation)) : List Operation :=
  run.map fun step => .inScope step.1 step.2

/-- The store after a run. -/
def operate (s : Store) (run : List (ScopeId × Scope.Operation)) : Store :=
  Operation.performAll s (inScopes run)

/-- The name is bound in the scope from the beginning of the run to its end. -/
def BoundThroughout (s : Store) (e : ScopeId) (name : String)
    (run : List (ScopeId × Scope.Operation)) : Prop :=
  Operation.Throughout s (inScopes run) fun s => (s.scope e).binds name = true

theorem operate_append (s : Store) (run run' : List (ScopeId × Scope.Operation)) :
    s.operate (run ++ run') = (s.operate run).operate run' := by
  simp [operate, inScopes, Operation.performAll]

theorem operate_cons (s : Store) (step : ScopeId × Scope.Operation)
    (run : List (ScopeId × Scope.Operation)) :
    s.operate (step :: run) = (s.operate [step]).operate run := rfl

theorem boundThroughout_cons :
    s.BoundThroughout e name (step :: run) ↔
      (s.scope e).binds name = true ∧ (s.operate [step]).BoundThroughout e name run :=
  Operation.throughout_cons

/-- The name is bound at the beginning in particular. -/
theorem BoundThroughout.exists_binding (h : s.BoundThroughout e name run) :
    ∃ b, (s.scope e).binding? name = some b :=
  Option.isSome_iff_exists.1 h.first

/-! ### One operation -/

theorem operate_singleton (s : Store) (e : ScopeId) (op : Scope.Operation) :
    s.operate [(e, op)] =
      match op.apply (s.scope e) with
      | .ok scope => s.setScope e scope
      | .error _ => s := by
  show finalState (Effect.updateScope e fun scope => op.apply scope) s = _
  simp only [finalState, Effect.updateScope]
  cases op.apply (s.scope e) <;> rfl

/-- An operation that succeeds changes its own scope. -/
theorem scope_operate_of_ok (he : s.HasScope e) {op : Scope.Operation} {scope : Scope}
    (h : op.apply (s.scope e) = .ok scope) : (s.operate [(e, op)]).scope e = scope := by
  simp only [operate_singleton, h]
  rw [scope_setScope s e e scope he, if_pos rfl]

/-- An operation leaves a scope alone, or it is performed in it. -/
theorem scope_operate (s : Store) (e : ScopeId) (step : ScopeId × Scope.Operation) :
    (s.operate [step]).scope e = s.scope e ∨
      step.1 = e ∧ step.2.apply (s.scope e) = .ok ((s.operate [step]).scope e) := by
  obtain ⟨e', op⟩ := step
  cases h : op.apply (s.scope e') with
  | error cause => exact .inl (by simp only [operate_singleton, h])
  | ok scope =>
    by_cases he' : s.HasScope e'
    · by_cases he : e = e'
      · subst he
        exact .inr ⟨rfl, h.trans (congrArg _ (scope_operate_of_ok he' h).symm)⟩
      · left
        simp only [operate_singleton, h]
        rw [scope_setScope s e' e scope he', if_neg he]
    · -- writing where there is no scope does nothing
      left
      simp only [operate_singleton, h]
      rw [setScope, Array.setIfInBounds_eq_of_size_le (Nat.le_of_not_lt he')]

theorem hasScope_operate (s : Store) (e : ScopeId) (run : List (ScopeId × Scope.Operation)) :
    (s.operate run).HasScope e ↔ s.HasScope e := by
  induction run generalizing s with
  | nil => rfl
  | cons step run ih =>
    rw [operate_cons, ih, HasScope, operate_singleton]
    split
    · simp [HasScope, setScope]
    · rfl

theorem turns_operate (hb : (s.scope e).binding? name = some b)
    (step : ScopeId × Scope.Operation) :
    ((s.operate [step]).scope e).binding? name = some b ∨
      step.1 = e ∧ step.2.Turns name b (((s.operate [step]).scope e).binding? name) := by
  rcases scope_operate s e step with h | ⟨he, h⟩
  · exact .inl (by rw [h, hb])
  · exact .inr ⟨he, Scope.Operation.turns hb h⟩

/-! ### Whole runs -/

theorem regular_operate (hs : ∀ e, (s.scope e).Regular)
    (run : List (ScopeId × Scope.Operation)) (e : ScopeId) :
    ((s.operate run).scope e).Regular := by
  induction run generalizing s with
  | nil => exact hs e
  | cons step run ih =>
    rw [operate_cons]
    apply ih
    intro e
    rcases scope_operate s e step with h | ⟨-, h⟩
    · rw [h]
      exact hs e
    · exact (hs e).apply h

/-- What a binding has become by the end of a run during which it was there. -/
theorem becomes_operate (hb : (s.scope e).binding? name = some b)
    (h : s.BoundThroughout e name run) :
    ∃ b', ((s.operate run).scope e).binding? name = some b' ∧ b.Becomes b' := by
  induction run generalizing s b with
  | nil => exact ⟨b, hb, .refl b⟩
  | cons step run ih =>
    obtain ⟨-, hlater⟩ := boundThroughout_cons.1 h
    rcases turns_operate hb step with hsame | ⟨-, hturns⟩
    · exact ih hsame hlater
    · obtain ⟨b₁, hb₁⟩ := hlater.exists_binding
      rw [hb₁] at hturns
      obtain ⟨b', hb', hbecomes⟩ := ih hb₁ hlater
      exact ⟨b', hb', hturns.becomes.trans hbecomes⟩

/-- What cannot be deleted does not disappear. -/
theorem boundThroughout_of_not_deletable (hb : (s.scope e).binding? name = some b)
    (hd : b.deletable = false) (run : List (ScopeId × Scope.Operation)) :
    s.BoundThroughout e name run := by
  have hbound : (s.scope e).binds name = true := Scope.binds_of_binding? hb
  induction run generalizing s b with
  | nil => exact Operation.throughout_nil.2 hbound
  | cons step run ih =>
    have hnext : ∃ b₁, ((s.operate [step]).scope e).binding? name = some b₁ ∧
        b₁.deletable = false := by
      rcases turns_operate hb step with hsame | ⟨-, hturns⟩
      · exact ⟨b, hsame, hd⟩
      · obtain ⟨b₁, hb₁⟩ := hturns.exists_of_not_deletable hd
        rw [hb₁] at hturns
        exact ⟨b₁, hb₁, hturns.becomes.deletable.trans hd⟩
    obtain ⟨b₁, hb₁, hd₁⟩ := hnext
    exact boundThroughout_cons.2 ⟨hbound, ih hb₁ hd₁ (Scope.binds_of_binding? hb₁)⟩

/-- A binding without a value stays as it is until the first operation that initializes it, and this
gives it its value. -/
theorem waits_operate (hb : (s.scope e).binding? name = some b) (hi : b.initialized = false)
    (h : s.BoundThroughout e name run) :
    ((∀ v, (e, .initializeBinding name v) ∉ run) ∧
        ((s.operate run).scope e).binding? name = some b) ∨
      ∃ before v after, run = before ++ (e, .initializeBinding name v) :: after ∧
        (∀ w, (e, .initializeBinding name w) ∉ before) ∧
        ((s.operate (before ++ [(e, .initializeBinding name v)])).scope e).binding? name =
          some { b with value := v, initialized := true } := by
  induction run generalizing s with
  | nil => exact .inl ⟨fun v => List.not_mem_nil, hb⟩
  | cons step run ih =>
    obtain ⟨-, hlater⟩ := boundThroughout_cons.1 h
    by_cases hstep : ∃ v, step = (e, .initializeBinding name v)
    · obtain ⟨v, rfl⟩ := hstep
      have happly : (Scope.Operation.initializeBinding name v).apply (s.scope e) = .ok _ :=
        Scope.initializeBinding_of_not_initialized hb hi v
      have hscope := scope_operate_of_ok (hasScope_of_binding? hb) happly
      refine .inr ⟨[], v, run, rfl, fun w => List.not_mem_nil, ?_⟩
      rw [List.nil_append, hscope, Scope.binding?_bind, if_pos rfl]
    · have hb₁ : ((s.operate [step]).scope e).binding? name = some b := by
        rcases turns_operate hb step with hsame | ⟨he, hturns⟩
        · exact hsame
        · rcases hturns.cases_of_not_initialized hi with hkept | ⟨v, hop⟩ | hgone
          · exact hkept
          · exact absurd ⟨v, Prod.ext he hop⟩ hstep
          · obtain ⟨b₁, hb₁⟩ := hlater.exists_binding
            cases hgone.symm.trans hb₁
      have hnot : ∀ {v}, (e, .initializeBinding name v) ≠ step := by
        intro v hv
        exact hstep ⟨v, hv.symm⟩
      rcases ih hb₁ hlater with ⟨hnone, hend⟩ | ⟨before, v, after, rfl, hfirst, hv⟩
      · refine .inl ⟨?_, hend⟩
        intro v hv
        exact (List.mem_cons.1 hv).elim hnot (hnone v)
      · refine .inr ⟨step :: before, v, after, rfl, ?_, hv⟩
        intro w hw
        exact (List.mem_cons.1 hw).elim hnot (hfirst w)

/-! ### The life cycle -/

/-- What the binding `b` that a name has in a scope at the beginning of a run goes through. -/
structure LifeCycle (s : Store) (e : ScopeId) (name : String) (b : Binding)
    (run : List (ScopeId × Scope.Operation)) : Prop where
  /-- An immutable binding that has a value is read with this value at the end. -/
  read : b.isMutable = false → b.initialized = true →
    ((s.operate run).scope e).read name = .ok b.value
  undeletable : b.isMutable = false → b.deletable = false
  /-- What cannot be deleted is there all the time. -/
  remains : b.deletable = false → s.BoundThroughout e name run
  becomes : s.BoundThroughout e name run →
    ∃ b', ((s.operate run).scope e).binding? name = some b' ∧ b.Becomes b'
  /-- A binding without a value can be neither read nor assigned, until the first operation that
  initializes it gives it its value. -/
  waits : b.initialized = false → s.BoundThroughout e name run →
    ((∀ v, (e, .initializeBinding name v) ∉ run) ∧
        ((s.operate run).scope e).binding? name = some b ∧
        ((s.operate run).scope e).Waits name) ∨
      ∃ before v after, run = before ++ (e, .initializeBinding name v) :: after ∧
        (∀ w, (e, .initializeBinding name w) ∉ before) ∧
        ((s.operate (before ++ [(e, .initializeBinding name v)])).scope e).binding? name =
          some { b with value := v, initialized := true }
  /-- It is not initialized a second time. -/
  once : b.initialized = true → s.BoundThroughout e name run → ∀ v,
    ((s.operate run).scope e).initializeBinding name v = .error (.uninitializedBinding name)

/-- Every binding of a regular scope goes through its life cycle. -/
theorem lifeCycle (hs : (s.scope e).Regular) (hb : (s.scope e).binding? name = some b)
    (run : List (ScopeId × Scope.Operation)) : s.LifeCycle e name b run := by
  have hundeletable := hs.lasting name b hb
  have hremains : b.deletable = false → s.BoundThroughout e name run := fun hd =>
    boundThroughout_of_not_deletable hb hd run
  constructor
  case read =>
    intro hm hi
    obtain ⟨b', hb', hbecomes⟩ := becomes_operate hb (hremains (hundeletable hm))
    rw [Scope.read_of_initialized hb' (hbecomes.initialized hi), hbecomes.value hm hi]
  case undeletable => exact hundeletable
  case remains => exact hremains
  case becomes => exact becomes_operate hb
  case waits =>
    intro hi h
    rcases waits_operate hb hi h with ⟨hnone, hend⟩ | hfirst
    · exact .inl ⟨hnone, hend, Scope.waits_of_not_initialized hend hi⟩
    · exact .inr hfirst
  case once =>
    intro hi h v
    obtain ⟨b', hb', hbecomes⟩ := becomes_operate hb h
    exact Scope.initializeBinding_of_initialized hb' (hbecomes.initialized hi) v

/-- **The life cycle of bindings.** Whatever operations are performed in the scopes of a reachable
store: in each scope a name is bound once, a binding that was made not to be deleted is there from
then on, and every binding goes through its life cycle, from any moment of the run on. -/
theorem binding_life_cycle (hs : s.Reachable) (he : s.HasScope e) (name : String)
    (run : List (ScopeId × Scope.Operation)) :
    ((s.operate run).scope e).bindings.Distinct ∧
      (∀ before op after scope, run = before ++ (e, op) :: after → op.MakesLasting name →
        op.apply ((s.operate before).scope e) = .ok scope →
        ((s.operate run).scope e).binds name = true) ∧
      ∀ before after b, run = before ++ after →
        ((s.operate before).scope e).binding? name = some b →
        (s.operate before).LifeCycle e name b after := by
  have hregular : ∀ run, ((s.operate run).scope e).Regular := by
    intro run
    exact regular_operate hs.regular run e
  refine ⟨(hregular run).distinct, ?_, ?_⟩
  · -- the binding is there right after the operation that has made it
    rintro before op after scope rfl hop happly
    have hscope := scope_operate_of_ok ((hasScope_operate s e before).2 he) happly
    obtain ⟨b, hb, hd⟩ := hop.binding? happly
    rw [← hscope] at hb
    rw [operate_append, operate_cons]
    exact (boundThroughout_of_not_deletable hb hd after).last
  · intro before after b _ hb
    exact lifeCycle (hregular before) hb after

/-- An immutable binding: assigned too early, initialized, assigned by sloppy code and by strict
code, deleted, made and initialized once more. -/
def immutableRun : List (ScopeId × Scope.Operation) :=
  [(⟨0⟩, .assign "x" .null false), (⟨0⟩, .initializeBinding "x" (.boolean true)),
    (⟨0⟩, .assign "x" .null false), (⟨0⟩, .assign "x" .null true), (⟨0⟩, .delete "x"),
    (⟨0⟩, .declareMutable "x" true), (⟨0⟩, .initializeBinding "x" .null)]

theorem binding_life_cycle_immutable :
    let s := Operation.performAll {} [.newScope none, .inScope ⟨0⟩ (.declareImmutable "x" false)]
    s.Reachable ∧ s.HasScope ⟨0⟩ ∧ ((s.operate immutableRun).scope ⟨0⟩).bindings.Distinct ∧
      s.LifeCycle ⟨0⟩ "x" { isMutable := false } immutableRun ∧
      ((s.operate immutableRun).scope ⟨0⟩).read "x" = .ok (.boolean true) := by
  intro s
  have hs : s.Reachable := Reachable.performAll (by decide +kernel)
  have he : s.HasScope ⟨0⟩ := by decide +kernel
  have hb : (s.scope ⟨0⟩).binding? "x" = some { isMutable := false } := by decide +kernel
  obtain ⟨hdistinct, -, hlife⟩ := binding_life_cycle hs he "x" immutableRun
  exact ⟨hs, he, hdistinct, hlife [] immutableRun _ rfl hb, by decide +kernel⟩

end Store

end FunctionObjects
