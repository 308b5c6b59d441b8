import FunctionObjects.Proofs.Evaluation.Runs
import FunctionObjects.Proofs.Evaluation.Stack
import FunctionObjects.Proofs.Store.Building

/-!
# Evaluation only adds

Whatever an agent evaluates, and whether it succeeds or fails, nothing that was there before is
touched. What has come into the heap are the functions whose expressions were evaluated with
success, in this order, each with all that belongs to it. There is never a part of one.

Which functions these are is said by following the syntax. `madeByStatement` goes through a
statement as its execution does and notes each function expression that has succeeded; it ends with
the first failure or `return`. That this list and the heap agree is an induction over expressions,
statements and lists of statements, in which every step builds on the store (`Store.Builds`). The
same induction says where the value of an expression comes from.
-/

namespace FunctionObjects

open Store

/-- The value of the last statement, or the one that was returned. -/
def Completion.value : Completion → Value
  | .normal v | .returned v => v

/-- What a function gives whose body has ended in this way. -/
def Completion.bodyValue : Completion → Value
  | .normal _ => .undefined
  | .returned v => v

/-- The parameters of a function have no value but `undefined`. -/
theorem Scope.Blank.declareParameters {names : List String} {s s' : Scope} (hs : s.Blank)
    (h : s.declareParameters names = .ok s') : s'.Blank := by
  induction names generalizing s with
  | nil =>
    cases h
    exact hs
  | cons name names ih =>
    rw [Scope.declareParameters] at h
    split at h
    · exact ih hs h
    · obtain ⟨s₁, h₁, h⟩ := exists_of_bind_eq_ok h
      obtain ⟨s₂, h₂, h⟩ := exists_of_bind_eq_ok h
      obtain ⟨-, rfl⟩ := declare_cases h₁
      obtain ⟨b, -, -, rfl⟩ := initializeBinding_cases h₂
      exact ih ((hs.bind rfl).bind rfl) h

namespace Agent

variable {made made' : List Creation} {a a' a'' : Agent}

/-- The second agent is the first after functions have been added to its heap, those of a list. -/
structure Builds (made : List Creation) (a a' : Agent) : Prop where
  heap : a'.heap = a.heap
  store : Store.Builds a.heap a.store made a'.store

namespace Builds

theorem refl (a : Agent) : Builds [] a a := ⟨rfl, .refl⟩

theorem trans (h : Builds made a a') (h' : Builds made' a' a'') :
    Builds (made ++ made') a a'' :=
  ⟨h'.heap.trans h.heap, h.store.trans (h.heap ▸ h'.store)⟩

/-- The contexts do not matter. -/
theorem push (h : Builds made a a') (c : Context) : Builds made a (a'.push c) :=
  ⟨h.heap, h.store⟩

theorem scope {scope : Scope} (hs : scope.Blank) :
    Builds [] a { a with store := a.store.pushScope scope } :=
  ⟨rfl, .scope .refl hs⟩

end Builds

/-- A value that is an object is one of the heap of the agent, or some name is bound to it. -/
def Holds (a : Agent) (v : Value) : Prop :=
  ∀ id, v = .object id → a.store.Live (.allocated a.heap id) ∨
    ∃ e name b, (a.store.scope e).binding? name = some b ∧ b.value = v

theorem holds_undefined (a : Agent) : a.Holds .undefined := by
  rintro id ⟨⟩

theorem Holds.of_live {id : ObjectId} (h : a.store.Live (.allocated a.heap id)) :
    a.Holds (.object id) := by
  rintro _ ⟨⟩
  exact .inl h

/-- What a name means is the value of some binding. -/
theorem Holds.of_lookupName {e : ScopeId} {name : String} {v : Value}
    (h : a.store.lookupName e name = .ok v) : a.Holds v := by
  unfold lookupName at h
  split at h
  · next found hfound =>
    obtain ⟨b, hb, hv⟩ := Scope.exists_binding_of_read h
    exact fun id _ => .inr ⟨found, name, b, hb, hv⟩
  · cases h

/-- What it takes for code to run: prototype chains end, and the realm of the running context is one
that was created. -/
structure Ready (a : Agent) : Prop where
  linked : a.store.Linked
  realm : ∀ c, a.running? = some c → c.realm.Created

/-- An agent as it may be. Prototype chains end, and all realms that the contexts and the functions
refer to were created. This is so at the beginning, and it is kept. -/
structure Genuine (a : Agent) : Prop where
  linked : a.store.Linked
  contexts : ∀ c ∈ a.contexts, c.realm.Created
  functions : ∀ id f, a.store.function? id = some f → f.realm.Created

theorem Genuine.ready (ha : a.Genuine) : a.Ready :=
  ⟨ha.linked, fun c hc => ha.contexts c (List.mem_of_mem_head? hc)⟩

theorem Ready.builds (ha : a.Ready) (h : Builds made a a') (hr : a'.running? = a.running?) :
    a'.Ready :=
  ⟨h.store.linked ha.linked, fun c hc => ha.realm c (hr.symm.trans hc)⟩

end Agent

namespace Evaluation

open Agent

variable {α β : Type} {a b : Agent}

/-! ### Which functions are made -/

/-- The function of a definition, if the evaluation of the function expression succeeds. -/
def madeByDefinition (d : FunctionDefinition) (a : Agent) : List Creation :=
  match a.running?, instantiate d a with
  | some c, .ok _ _ => [.next a.store c d]
  | _, _ => []

def madeByExpression : Expression → Agent → List Creation
  | .literal _, _ | .identifier _, _ => []
  | .function d, a => madeByDefinition d a

mutual

/-- The functions that the execution of a statement makes, in the order of their creation. -/
def madeByStatement : Statement → Agent → List Creation
  | .empty, _ | .return none, _ => []
  | .expression e, a | .return (some e), a => madeByExpression e a
  | .block body, a =>
    match enterBlock a with
    | .ok _ b => madeByStatements body b
    | .error _ _ => []

/-- The functions that the execution of a list of statements makes. What comes after a failure or a
`return` is not executed. -/
def madeByStatements : List Statement → Agent → List Creation
  | [], _ => []
  | s :: rest, a =>
    madeByStatement s a ++
      match statement s a with
      | .ok (.normal _) b => madeByStatements rest b
      | .ok (.returned _) _ | .error _ _ => []

end

/-- Enter the context for the body of a function, with its parameters bound. -/
def enterBody (f : FunctionSlots) : Evaluation Unit := do
  let scope ← onStore (Effect.newScope { outer := some f.scope })
  onStore (Effect.updateScope scope fun s => s.declareParameters f.definition.parameterNames)
  enter ((bodyContext f).inScope scope)

/-- The functions that the body of a function makes. -/
def madeByBody (c : Closure) (a : Agent) : List Creation :=
  match a.store.function? c.slots with
  | none => []
  | some f =>
    match enterBody f a with
    | .ok _ b => madeByStatements f.definition.body b
    | .error _ _ => []

/-! ### The single steps -/

/-- Looking at the running context changes nothing. -/
theorem builds_running {f : Context → Evaluation α} {Q : α → Agent → Prop}
    (h : ∀ c, a.running? = some c → Moves (Builds []) (f c) a Q) :
    Moves (Builds []) (running >>= f) a Q := by
  unfold Moves
  cases hc : a.running? with
  | none =>
    rw [bind_of_error (running_of_none hc)]
    exact .refl a
  | some c =>
    rw [bind_of_ok (running_of_some hc)]
    exact h c hc

/-- A function is made with all that belongs to it, or there is at most a new scope without values.
-/
theorem builds_instantiate (ha : a.Ready) (d : FunctionDefinition) :
    Moves (Builds (madeByDefinition d a)) (instantiate d) a
      fun c a' => a'.store.Live (.allocated a'.heap c.id) := by
  unfold Moves madeByDefinition
  cases hc : a.running? with
  | none =>
    rw [instantiate_of_none hc]
    exact .refl a
  | some c =>
    rw [instantiate_of_some hc]
    have hr := ha.realm c hc
    rcases Nat.lt_or_ge (c.realm.intrinsics.functionPrototypeFor d.species)
      (a.store.heapSize a.heap) with hp | hp
    · rw [onStore_of_ok (instantiate_of_created ha.linked hr hp)]
      have hb : Store.Builds a.heap a.store [.next a.store c d]
          (a.store.afterFunction a.heap c d) := .function .refl hr hp
      exact ⟨⟨rfl, hb⟩, live_allocated_iff.2 (heapSize_lt_afterFunction hp)⟩
    · rw [onStore_of_error (Closure.instantiate_of_le ha.linked hp)]
      exact ⟨rfl, builds_withScopeFor _ _ _ _ rfl⟩

theorem builds_expression (ha : a.Ready) (e : Expression) :
    Moves (Builds (madeByExpression e a)) (expression e) a fun v a' => a'.Holds v := by
  cases e with
  | literal l =>
    refine .pure (.refl a) ?_
    cases l <;> rintro id ⟨⟩
  | identifier name =>
    refine builds_running fun c _ => ?_
    unfold Moves
    cases hv : a.store.lookupName c.scope name with
    | ok v =>
      rw [onStore_of_ok (x := v) (s := a.store) (by simp [Effect.inspect, hv])]
      exact ⟨.refl a, .of_lookupName hv⟩
    | error e =>
      rw [onStore_of_error (e := e) (s := a.store) (by simp [Effect.inspect, hv])]
      exact .refl a
  | function d =>
    exact (builds_instantiate ha d).map fun c a' hc => .of_live hc

/-- A context that lasts as long as a computation leaves no other trace than the computation. -/
theorem builds_leaving {act : Evaluation α} {made : List Creation} {Q : α → Value}
    (hb : Builds [] a b) (h : Moves (Builds made) act b fun x a' => a'.Holds (Q x)) :
    Moves (fun _ a' => Builds made a a') (leaving act) b fun x a' => a'.Holds (Q x) := by
  have hpop : ∀ {a'}, Builds made b a' → Builds made a a'.pop := fun h =>
    hb.trans ⟨h.heap, h.store⟩
  cases hact : act b with
  | ok x a' =>
    obtain ⟨hbuilds, hQ⟩ := h.of_ok hact
    simp only [Moves, leaving, hact]
    exact ⟨hpop hbuilds, hQ⟩
  | error e a' =>
    have hbuilds : Builds made b a' := by simpa [Moves, hact] using h
    simp only [Moves, leaving, hact]
    exact hpop hbuilds

/-! ### Statements -/

mutual

theorem builds_statement (s : Statement) {a : Agent} (ha : a.Ready) :
    Moves (Builds (madeByStatement s a)) (statement s) a fun r a' => a'.Holds r.value := by
  match s with
  | .empty => exact .pure (.refl a) (holds_undefined a)
  | .expression e => exact (builds_expression ha e).map fun v a' hv => hv
  | .return none => exact .pure (.refl a) (holds_undefined a)
  | .return (some e) => exact (builds_expression ha e).map fun v a' hv => hv
  | .block body =>
    unfold Moves
    cases hc : a.running? with
    | none =>
      rw [statement, madeByStatement, enterBlock_of_none hc,
        bind_of_error (enterBlock_of_none hc)]
      exact .refl a
    | some c =>
      rw [statement, madeByStatement, enterBlock_of_some hc, bind_of_ok (enterBlock_of_some hc)]
      let inner := (a.withScope c.scope).push (c.inScope a.store.nextScope)
      have hb : Builds [] a inner := Builds.push (.scope (Scope.blank_empty _)) _
      have hinner : inner.Ready := by
        refine ⟨hb.store.linked ha.linked, fun c' hc' => ?_⟩
        cases hc'
        exact ha.realm c hc
      exact builds_leaving hb
        (builds_statementsAfter .undefined body hinner (holds_undefined inner))

theorem builds_statementsAfter (last : Value) (body : List Statement) {a : Agent} (ha : a.Ready)
    (hlast : a.Holds last) :
    Moves (Builds (madeByStatements body a)) (statementsAfter last body) a
      fun r a' => a'.Holds r.value := by
  match body with
  | [] => exact .pure (.refl a) hlast
  | s :: rest =>
    have hstatement := builds_statement s ha
    unfold Moves
    rw [madeByStatements, statementsAfter]
    cases hs : statement s a with
    | error e b =>
      have hb : Builds (madeByStatement s a) a b := by simpa [Moves, hs] using hstatement
      rw [bind_of_error hs]
      exact hb.trans (.refl b)
    | ok r b =>
      obtain ⟨hb, hr⟩ := hstatement.of_ok hs
      rw [bind_of_ok hs]
      -- after a `return` the rest is left out
      cases r with
      | returned v => exact ⟨hb.trans (.refl b), hr⟩
      | normal v =>
        have hready := ha.builds hb ((balanced_statement s a).running?_eq hs)
        have hrest := builds_statementsAfter v rest hready hr
        unfold Moves at hrest
        split at hrest
        · next heq =>
          simp only [heq]
          exact ⟨hb.trans hrest.1, hrest.2⟩
        · next heq =>
          simp only [heq]
          exact hb.trans hrest

end

/-! ### Bodies -/

theorem body_eq (c : Closure) :
    body c = slots c >>= fun f => enterBody f >>= fun _ =>
      leaving (statements f.definition.body) >>= fun r => pure r.bodyValue := by
  simp only [body, enterBody, bind_assoc]
  refine bind_congr fun f => bind_congr fun scope => bind_congr fun _ => bind_congr fun _ =>
    bind_congr fun r => ?_
  cases r <;> rfl

/-- The context for a body has a new scope, in which nothing has a value but `undefined`. -/
theorem enterBody_cases (f : FunctionSlots) (a : Agent) :
    ∃ scope : Scope, scope.Blank ∧
      (enterBody f a = .ok () (push { a with store := a.store.pushScope scope }
          ((bodyContext f).inScope a.store.nextScope)) ∨
        ∃ e, enterBody f a = .error e { a with store := a.store.pushScope scope }) := by
  let outside : Scope := { outer := some f.scope }
  have hnew : onStore (Effect.newScope outside) a =
      .ok a.store.nextScope { a with store := a.store.pushScope outside } := onStore_of_ok rfl
  rw [enterBody, bind_of_ok hnew]
  cases hdeclare : outside.declareParameters f.definition.parameterNames with
  | ok scope =>
    refine ⟨scope, (Scope.blank_empty _).declareParameters hdeclare, .inl ?_⟩
    rw [bind_of_ok (onStore_of_ok (Effect.updateScope_pushScope hdeclare))]
    rfl
  | error e =>
    refine ⟨outside, Scope.blank_empty _, .inr ⟨e, ?_⟩⟩
    refine bind_of_error (onStore_of_error ?_)
    simp [Effect.updateScope, scope_pushScope, hdeclare]

theorem builds_body (ha : a.Genuine) (c : Closure) :
    Moves (Builds (madeByBody c a)) (body c) a fun v a' => a'.Holds v := by
  unfold Moves madeByBody
  rw [body_eq]
  cases hf : a.store.function? c.slots with
  | none =>
    rw [bind_of_error (slots_of_none hf)]
    exact .refl a
  | some f =>
    rw [bind_of_ok (slots_of_some hf)]
    obtain ⟨scope, hblank, henter | ⟨e, henter⟩⟩ := enterBody_cases f a
    · let inner := push { a with store := a.store.pushScope scope }
        ((bodyContext f).inScope a.store.nextScope)
      have hb : Builds [] a inner := (Builds.scope hblank).push _
      have hinner : inner.Ready := by
        refine ⟨hb.store.linked ha.linked, fun c' hc' => ?_⟩
        cases hc'
        exact ha.functions c.slots f hf
      have hbody := builds_leaving hb
        (builds_statementsAfter .undefined f.definition.body hinner (holds_undefined inner))
      rw [bind_of_ok henter]
      simp only [henter]
      refine hbody.map fun r a' hr => ?_
      cases r with
      | normal => exact holds_undefined a'
      | returned => exact hr
    · rw [bind_of_error henter]
      simp only [henter]
      exact .scope hblank

end Evaluation

end FunctionObjects
