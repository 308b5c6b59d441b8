import FunctionObjects.Proofs.Evaluation.Captures
import FunctionObjects.Proofs.Evaluation.Order
import FunctionObjects.Proofs.Function.SelfReference
import FunctionObjects.Proofs.Scope.LifeCycle

/-!
# What the body of a function sees

The body of a function runs in a new scope inside the one that the function has captured. Its
parameters are bound there, each once however often it is named, and all to `undefined`. Nothing can
go wrong with that.

So at any point of the body, in blocks of any depth, a parameter is `undefined`, and all other names
mean what they mean in the captured scope. In particular a named function sees itself under its
name, unless this is the name of a parameter.
-/

namespace FunctionObjects

/-! ### The scope of the parameters -/

/-- The binding of a parameter. -/
def parameterBinding : Binding := { isMutable := true, initialized := true }

/-- The scope in which the parameters with these names are bound, in the order in which the names
occur first. -/
def Scope.ofParameters (names : List String) (outer : Option ScopeId) : Scope :=
  { bindings := ⟨names.eraseDups.map fun name => (name, parameterBinding)⟩, outer }

namespace Scope

variable {s : Scope} {name : String} {names : List String} {outer : Option ScopeId}

theorem keys_ofParameters : (ofParameters names outer).bindings.keys = names.eraseDups := by
  simp [ofParameters, OrderedMap.keys, Function.comp_def]

theorem binds_ofParameters : (ofParameters names outer).binds name = true ↔ name ∈ names := by
  rw [binds, ← OrderedMap.mem_keys_iff, keys_ofParameters, List.mem_eraseDups]

/-- A parameter that is named once more stays where it is. -/
theorem ofParameters_append_of_mem (h : name ∈ names) :
    ofParameters (names ++ [name]) outer = ofParameters names outer := by
  rw [ofParameters, ofParameters, List.eraseDups_append]
  simp [List.removeAll, h]

theorem bind_ofParameters (h : name ∉ names) :
    (ofParameters names outer).bind name parameterBinding =
      ofParameters (names ++ [name]) outer := by
  have hkeys : name ∉ (ofParameters names outer).bindings.keys := by
    rwa [keys_ofParameters, List.mem_eraseDups]
  rw [bind, OrderedMap.insert_of_not_mem _ _ hkeys]
  simp [ofParameters, List.eraseDups_append, List.removeAll, h, List.eraseDups_cons]

/-- A name that is not bound yet is bound to `undefined` in two operations. -/
theorem declareParameters_of_unbound (h : name ∉ s.bindings.keys) :
    s.declareParameters (name :: names) =
      (s.bind name parameterBinding).declareParameters names := by
  have hbinds : s.binds name = false := by
    rw [← Bool.not_eq_true, binds, ← OrderedMap.mem_keys_iff]
    exact h
  have hdeclare : s.declareMutable name false = .ok (s.bind name { isMutable := true }) := by
    rw [declareMutable, declare, hbinds]
    rfl
  have hinit : (s.bind name { isMutable := true }).initializeBinding name .undefined =
      .ok (s.bind name parameterBinding) := by
    rw [initializeBinding_of_not_initialized ((binding?_bind _ _ _ _).trans (if_pos rfl)) rfl,
      bind_bind]
    rfl
  have hfirst : s.declareParameters (name :: names) = s.declareMutable name false >>= fun s =>
      s.initializeBinding name .undefined >>= fun s => s.declareParameters names := by
    rw [declareParameters, hbinds]
    rfl
  rw [hfirst, hdeclare]
  show (s.bind name { isMutable := true }).initializeBinding name .undefined >>= _ = _
  rw [hinit]
  rfl

/-- The parameters are bound one after the other, those that are bound already being left out. -/
theorem declareParameters_ofParameters (names names' : List String) (outer : Option ScopeId) :
    (ofParameters names outer).declareParameters names' =
      .ok (ofParameters (names ++ names') outer) := by
  induction names' generalizing names with
  | nil => rw [List.append_nil, declareParameters]
  | cons name names' ih =>
    rw [← List.singleton_append, ← List.append_assoc, List.singleton_append]
    by_cases h : name ∈ names
    · rw [declareParameters, if_pos (binds_ofParameters.2 h), ← ofParameters_append_of_mem h, ih]
    · have hkeys : name ∉ (ofParameters names outer).bindings.keys := by
        rwa [keys_ofParameters, List.mem_eraseDups]
      rw [declareParameters_of_unbound hkeys, bind_ofParameters h, ih]

theorem binding?_ofParameters (h : name ∈ names) (outer : Option ScopeId) :
    (ofParameters names outer).binding? name = some parameterBinding := by
  have hbinds : (ofParameters names outer).binds name = true := binds_ofParameters.2 h
  obtain ⟨b, hb⟩ := Option.isSome_iff_exists.1 hbinds
  obtain ⟨before, after, hsplit, -⟩ := OrderedMap.exists_split hb
  have hmem : (name, b) ∈ names.eraseDups.map fun name => (name, parameterBinding) := by
    show (name, b) ∈ (ofParameters names outer).bindings.entries
    rw [hsplit]
    simp
  obtain ⟨name', -, hpair⟩ := List.mem_map.1 hmem
  cases hpair
  exact hb

theorem binding?_ofParameters_of_not_mem (h : name ∉ names) (outer : Option ScopeId) :
    (ofParameters names outer).binding? name = none := by
  rw [← binds_eq_false_iff, ← Bool.not_eq_true]
  exact fun hbinds => h (binds_ofParameters.1 hbinds)

end Scope

/-- The name whose value a statement returns, if that is all it does. -/
def Statement.returnedName? : Statement → Option String
  | .return (some (.identifier name)) => some name
  | _ => none

namespace Agent

open Evaluation Store

variable {a : Agent} {f : FunctionSlots} {fn : Closure}

/-- The agent at the beginning of the body of a function. -/
def inBody (a : Agent) (f : FunctionSlots) : Agent :=
  let scope := Scope.ofParameters f.definition.parameterNames (some f.scope)
  push { a with store := a.store.pushScope scope } ((bodyContext f).inScope a.store.nextScope)

theorem running?_inBody (a : Agent) (f : FunctionSlots) :
    (a.inBody f).running? = some ((bodyContext f).inScope a.store.nextScope) := rfl

theorem scope_inBody (a : Agent) (f : FunctionSlots) :
    (a.inBody f).store.scope a.store.nextScope =
      .ofParameters f.definition.parameterNames (some f.scope) :=
  (scope_pushScope _ _ _).trans (if_pos rfl)

theorem hasScope_inBody (a : Agent) (f : FunctionSlots) :
    (a.inBody f).store.HasScope a.store.nextScope := by
  simp [inBody, push, HasScope, pushScope, nextScope]

/-- The context for a body can always be entered. -/
theorem enterBody_eq (a : Agent) (f : FunctionSlots) : enterBody f a = .ok () (a.inBody f) := by
  let outside : Scope := { outer := some f.scope }
  have hnew : onStore (Effect.newScope outside) a =
      .ok a.store.nextScope { a with store := a.store.pushScope outside } := onStore_of_ok rfl
  have hdeclare : outside.declareParameters f.definition.parameterNames =
      .ok (.ofParameters f.definition.parameterNames (some f.scope)) :=
    Scope.declareParameters_ofParameters [] f.definition.parameterNames (some f.scope)
  rw [enterBody, bind_of_ok hnew,
    bind_of_ok (onStore_of_ok (Effect.updateScope_pushScope hdeclare))]
  rfl

theorem Orderly.later_inBody (ha : a.Orderly) {id : FunctionId}
    (hf : a.store.function? id = some f) : Later a (a.inBody f) := by
  refine ha.later_push (fun o ho => ?_) (ha.genuine.functions id f hf)
  cases ho
  exact ha.sound.functions.scope id f hf

/-- At the beginning of a body the parameters are `undefined`, and all other names mean what they
mean in the scope that the function has captured. -/
theorem Orderly.lookupName_inBody (ha : a.Orderly) {id : FunctionId}
    (hf : a.store.function? id = some f) (name : String) :
    (a.inBody f).store.lookupName a.store.nextScope name =
      if name ∈ f.definition.parameterNames then .ok .undefined
      else a.store.lookupName f.scope name := by
  have hlater := ha.later_inBody hf
  have hnested := hlater.orderly.nested
  split
  · next hname =>
    have hb := Scope.binding?_ofParameters hname (some f.scope)
    rw [← scope_inBody] at hb
    rw [hnested.lookupName_of_binding? hb, Scope.read_of_initialized hb rfl]
    rfl
  · next hname =>
    have hb := Scope.binding?_ofParameters_of_not_mem hname (some f.scope)
    rw [← scope_inBody] at hb
    have houter : ((a.inBody f).store.scope a.store.nextScope).outer = some f.scope := by
      rw [scope_inBody]
      rfl
    have hscope := ha.sound.functions.scope id f hf
    rw [hnested.lookupName_of_outer (hasScope_inBody a f) (hlater.hasScope hscope) houter hb,
      hlater.lookupName ha hscope]

end Agent

namespace Evaluation

open Agent Store

variable {α : Type} {a a₀ a₁ : Agent} {f : FunctionSlots} {fn : Closure} {t : AtomicStep}

/-- The result of a computation, or why it failed. -/
def outcome (act : Evaluation α) (a : Agent) : Except Error α :=
  match act a with
  | .ok x _ => .ok x
  | .error e _ => .error e

/-- The value that a `return` gives. -/
def returnedValue : Option Expression → Evaluation Value
  | none => pure .undefined
  | some e => expression e

/-! ### How a body ends -/

theorem body_of_function? (hf : a.store.function? fn.slots = some f) :
    body fn a = (leaving (statements f.definition.body) >>= fun r => pure r.bodyValue)
      (a.inBody f) := by
  rw [body_eq, bind_of_ok (slots_of_some hf), bind_of_ok (enterBody_eq a f)]

theorem body_of_ok (hf : a.store.function? fn.slots = some f) {r : Completion} {b : Agent}
    (h : statements f.definition.body (a.inBody f) = .ok r b) :
    body fn a = .ok r.bodyValue b.pop := by
  have hleaving : leaving (statements f.definition.body) (a.inBody f) = .ok r b.pop := by
    rw [leaving, h]
  rw [body_of_function? hf, bind_of_ok hleaving]
  rfl

theorem body_of_error (hf : a.store.function? fn.slots = some f) {cause : Error} {b : Agent}
    (h : statements f.definition.body (a.inBody f) = .error cause b) :
    body fn a = .error cause b.pop := by
  have hleaving : leaving (statements f.definition.body) (a.inBody f) = .error cause b.pop := by
    rw [leaving, h]
  rw [body_of_function? hf, bind_of_error hleaving]

/-- What a function gives is what its body was ended with, or `undefined`. -/
theorem outcome_body (hf : a.store.function? fn.slots = some f) :
    outcome (body fn) a =
      (ending (statements f.definition.body) (a.inBody f)).outcome.map (·.getD .undefined) := by
  rw [outcome, ending]
  cases h : statements f.definition.body (a.inBody f) with
  | ok r b =>
    rw [body_of_ok hf h]
    cases r <;> rfl
  | error cause b =>
    rw [body_of_error hf h]
    rfl

/-- A body leaves the store that its statements leave. -/
theorem store_finalState_body (hf : a.store.function? fn.slots = some f) :
    (finalState (body fn) a).store =
      (ending (statements f.definition.body) (a.inBody f)).store := by
  rw [ending]
  cases h : statements f.definition.body (a.inBody f) with
  | ok r b =>
    rw [finalState_of_ok (body_of_ok hf h)]
    rfl
  | error cause b =>
    rw [finalState_of_error (body_of_error hf h)]
    rfl

theorem outcome_ending_bind (act : Evaluation Value) (f : Value → Completion) (a : Agent) :
    (ending (act >>= fun v => pure (f v)) a).outcome =
      (outcome act a).map fun v => (f v).returned? := by
  rw [outcome, ending]
  cases h : act a with
  | ok v b =>
    rw [bind_of_ok h]
    rfl
  | error cause b =>
    rw [bind_of_error h]
    rfl

theorem ending_of_return {e : Option Expression} (ht : t.statement = .return e) :
    t.ending.outcome = (outcome (returnedValue e) t.agent).map some := by
  rw [AtomicStep.ending, ht]
  cases e with
  | none => rfl
  | some e => exact outcome_ending_bind (expression e) .returned t.agent

/-- An expression as a statement fails or goes through. -/
theorem ending_of_expression {e : Expression} (ht : t.statement = .expression e) :
    t.ending.outcome = (outcome (expression e) t.agent).map fun _ => none := by
  rw [AtomicStep.ending, ht]
  exact outcome_ending_bind (expression e) .normal t.agent

theorem not_completes_of_return {e : Option Expression} (ht : t.statement = .return e) :
    ¬ t.Completes := by
  intro h
  have houtcome : t.ending.outcome = .ok none := h
  rw [ending_of_return ht] at houtcome
  cases hv : outcome (returnedValue e) t.agent <;> rw [hv] at houtcome <;> cases houtcome

/-- If it is not a `return`, a step that does not go through has failed. -/
theorem exists_error_of_not_completes (hatomic : t.statement.IsAtomic)
    (hreturn : ∀ e, t.statement ≠ .return e) (hnot : ¬ t.Completes) :
    ∃ cause, t.ending.outcome = .error cause := by
  match hs : t.statement, hatomic with
  | .expression e, _ =>
    have houtcome := ending_of_expression hs
    cases hv : outcome (expression e) t.agent with
    | ok v =>
      rw [hv] at houtcome
      exact absurd houtcome hnot
    | error cause =>
      rw [hv] at houtcome
      exact ⟨cause, houtcome⟩
  | .return e, _ => exact absurd hs (hreturn e)

/-! ### Names in a body -/

theorem outcome_identifier {c : Context} (hc : a.running? = some c) (name : String) :
    outcome (expression (.identifier name)) a = a.store.lookupName c.scope name := by
  rw [outcome, expression_identifier hc]
  cases a.store.lookupName c.scope name <;> rfl

/-- What a name means does not change while the body is executed. -/
theorem outcome_identifier_of_mem_steps (ha : a.Orderly) (hf : a.store.function? fn.slots = some f)
    (ht : t ∈ steps f.definition.body (a.inBody f)) (name : String) :
    outcome (expression (.identifier name)) t.agent =
      if name ∈ f.definition.parameterNames then .ok .undefined
      else a.store.lookupName f.scope name := by
  have hlater := ha.later_inBody hf
  have hwithin := within_of_mem_steps hlater.orderly (a.running?_inBody f) ht
  obtain ⟨e, hrunning, hblock⟩ := hwithin.running
  have hscope := a.hasScope_inBody f
  rw [outcome_identifier hrunning]
  show t.agent.store.lookupName e name = _
  rw [hblock.lookupName hwithin.before.orderly.nested (hwithin.before.hasScope hscope)]
  show t.agent.store.lookupName a.store.nextScope name = _
  rw [hwithin.before.lookupName hlater.orderly hscope, ha.lookupName_inBody hf]

/-- A named function that was made by a function expression is bound to its name in the scope that
it has captured, whatever is done to the store afterwards. -/
theorem lookupName_of_instantiate {d : FunctionDefinition} (h₀ : a₀.Orderly)
    (hok : instantiate d a₀ = .ok fn a₁)
    (hlater : Changes (fun _ => True) True a₁.store a.store) (ha : a.Orderly)
    (hf : a.store.function? fn.slots = some f) (hn : f.definition.bindingName ≠ "") :
    a.store.lookupName f.scope f.definition.bindingName = .ok fn.value := by
  cases hc : a₀.running? with
  | none =>
    rw [instantiate_of_none hc] at hok
    cases hok
  | some c =>
    rcases Nat.lt_or_ge (c.realm.intrinsics.functionPrototypeFor d.species)
      (a₀.store.heapSize a₀.heap) with hp | hp
    · rw [h₀.instantiate_of_lt hc hp] at hok
      cases hok
      -- the function has kept its definition and its scope, and the scope the binding of the name
      replace hlater : Changes (fun _ => True) True (a₀.store.afterFunction a₀.heap c d) a.store :=
        hlater
      have hmade := (function?_afterFunction a₀.store a₀.heap c d _).trans (if_pos rfl)
      obtain ⟨g, hg, hbecomes⟩ := hlater.becomes hmade
      cases hg.symm.trans hf
      have hdef' : f.definition = d := hbecomes.definition_eq
      have hscope' : f.scope = a₀.store.scopeFor c d.bindingName := hbecomes.scope_eq
      rw [hdef'] at hn
      obtain ⟨-, -, hown⟩ := Closure.scope_withFunction a₀.store a₀.heap c
        (selfBinding (a₀.store.heapSize a₀.heap)) hn
      have hb : ((a₀.store.afterFunction a₀.heap c d).scope f.scope).binding? d.bindingName =
          some (selfBinding (a₀.store.heapSize a₀.heap)) := by
        rw [hscope', afterFunction, hown]
        exact Scope.binding?_single _
      have hb' := hlater.binding?_of_immutable hb rfl rfl rfl
      rw [hdef', ha.nested.lookupName_of_binding? hb', Scope.read_of_initialized hb' rfl]
      rfl
    · rw [h₀.instantiate_of_le hc hp] at hok
      cases hok

/-- **What a body sees.** The body of a function runs in a new scope inside the scope that the
function has captured, with each of its parameters bound to `undefined`; to enter it cannot fail.
At every step of the body the parameters are `undefined`, and all other names mean what they mean
in the captured scope. So a named function that was made by a function expression sees itself under
its name, unless a parameter has this name. If a `return` is executed, it is the last step, and the
result is its value. Otherwise the result is `undefined`, or the failure of a step. -/
theorem what_a_body_sees (ha : a.Orderly) (hf : a.store.function? fn.slots = some f) :
    let b := a.inBody f
    let names := f.definition.parameterNames
    let ts := steps f.definition.body b
    (¬ a.store.HasScope a.store.nextScope ∧ enterBody f a = .ok () b ∧
        b.running? = some ((bodyContext f).inScope a.store.nextScope) ∧
        b.store.scope a.store.nextScope = .ofParameters names (some f.scope) ∧
        body fn a = (leaving (statements f.definition.body) >>= fun r => pure r.bodyValue) b) ∧
      (∀ t ∈ ts, ∀ name, outcome (expression (.identifier name)) t.agent =
        if name ∈ names then .ok .undefined else a.store.lookupName f.scope name) ∧
      (∀ a₀ d a₁, a₀.Orderly → instantiate d a₀ = .ok fn a₁ →
        Changes (fun _ => True) True a₁.store a.store → f.definition.bindingName ≠ "" →
        f.definition.bindingName ∉ names → ∀ t ∈ ts,
          outcome (expression (.identifier f.definition.bindingName)) t.agent = .ok fn.value) ∧
      (∀ before t after e, ts = before ++ t :: after → t.statement = .return e →
        after = [] ∧ outcome (body fn) a = outcome (returnedValue e) t.agent) ∧
      ((∀ t ∈ ts, ∀ e, t.statement ≠ .return e) → outcome (body fn) a = .ok .undefined ∨
        ∃ t ∈ ts, ∃ cause, t.ending.outcome = .error cause ∧
          outcome (body fn) a = .error cause) := by
  intro b names ts
  have hb : b.Orderly := (ha.later_inBody hf).orderly
  have horder : InOrder b.store (Statement.flattenAll f.definition.body) ts
      (ending (statements f.definition.body) b) :=
    inOrder_statements hb (a.running?_inBody f) f.definition.body
  have hnames := fun t (ht : t ∈ ts) => outcome_identifier_of_mem_steps ha hf ht
  refine ⟨⟨Nat.lt_irrefl _, enterBody_eq a f, rfl, scope_inBody a f, body_of_function? hf⟩, hnames,
    ?_, ?_, ?_⟩
  · intro a₀ d a₁ h₀ hok hlater hn hparameter t ht
    rw [hnames t ht, if_neg hparameter]
    exact lookupName_of_instantiate h₀ hok hlater ha hf hn
  · intro before t after e hts hreturn
    have hnot : ¬ t.Completes := not_completes_of_return hreturn
    have ht : t ∈ ts := by simp [hts]
    refine ⟨(hts ▸ horder).eq_nil_of_not_completes hnot, ?_⟩
    rw [outcome_body hf, horder.ending_of_not_completes ht hnot, ending_of_return hreturn]
    cases outcome (returnedValue e) t.agent <;> rfl
  · intro hnone
    rw [outcome_body hf]
    rcases horder.completes_or_exists with hcompletes | ⟨t, ht, hnot⟩
    · rw [hcompletes]
      exact .inl rfl
    · have hatomic := (within_of_mem_steps hb (a.running?_inBody f) ht).atomic
      obtain ⟨cause, hcause⟩ := exists_error_of_not_completes hatomic (hnone t ht) hnot
      rw [horder.ending_of_not_completes ht hnot, hcause]
      exact .inr ⟨t, ht, cause, hcause, rfl⟩

/-- A function that binds one of its parameters twice, and that returns itself from two blocks. -/
def returnsItself : FunctionDefinition :=
  .ofParts 0 (some "f")
    [.array [some (.identifier "x"), none],
      .object [.keyed "k" (.identifier "y"), .rest (.identifier "x")]]
    [.expression (.identifier "x"), .block [.block [.return (some (.identifier "f"))]],
      .return none]
    .ordinary

/-- At the first `return` the parameter is `undefined`, the name of the function means the function,
and what is bound nowhere is not found. The second `return` is not executed. -/
theorem what_a_body_sees_itself :
    let a := (Command.instantiate returnsItself).perform strictStart
    let fn : Closure := ⟨7, .allocated 0 7, ⟨0⟩⟩
    a.Orderly ∧ ∃ f, a.store.function? fn.slots = some f ∧
      f.definition.parameterNames = ["x", "y", "x"] ∧
      (a.inBody f).store.scope a.store.nextScope = .ofParameters ["x", "y", "x"] (some f.scope) ∧
      ∃ t u, steps f.definition.body (a.inBody f) = [t, u] ∧ u.block = [0, 1] ∧
        outcome (expression (.identifier "x")) u.agent = .ok .undefined ∧
        outcome (expression (.identifier "f")) u.agent = .ok fn.value ∧
        outcome (expression (.identifier "z")) u.agent = .error (.unresolvableReference "z") ∧
        outcome (body fn) a = .ok fn.value := by
  intro a fn
  have ha : a.Orderly := (orderly_of_start start_strict).perform _
  have hread : (a.store.function? fn.slots).map (fun f =>
      (f.definition.parameterNames, a.store.lookupName f.scope "f",
        a.store.lookupName f.scope "z")) =
      some (["x", "y", "x"], .ok fn.value, .error (.unresolvableReference "z")) := by
    decide +kernel
  have hexecuted : (a.store.function? fn.slots).map (fun f =>
      (steps f.definition.body (a.inBody f)).map fun t => (t.block, t.statement.returnedName?)) =
      some [([], none), ([0, 1], some "f")] := by
    decide +kernel
  obtain ⟨f, hf, hfields⟩ := Option.map_eq_some_iff.1 hread
  have hparameters : f.definition.parameterNames = ["x", "y", "x"] := congrArg Prod.fst hfields
  have hf' : a.store.lookupName f.scope "f" = .ok fn.value := congrArg (fun p => p.2.1) hfields
  have hz : a.store.lookupName f.scope "z" = .error (.unresolvableReference "z") :=
    congrArg (fun p => p.2.2) hfields
  rw [hf] at hexecuted
  have hsteps := Option.some.inj hexecuted
  obtain ⟨t, ts, hts, -, htail⟩ := List.map_eq_cons_iff.1 hsteps
  obtain ⟨u, us, rfl, hu, hnil⟩ := List.map_eq_cons_iff.1 htail
  cases List.map_eq_nil_iff.1 hnil
  have hreturn : u.statement = .return (some (.identifier "f")) := by
    have hname : u.statement.returnedName? = some "f" := congrArg Prod.snd hu
    unfold Statement.returnedName? at hname
    split at hname
    · next name hs =>
      cases hname
      exact hs
    · cases hname
  obtain ⟨⟨-, -, -, hscope, -⟩, hnames, -, hlast, -⟩ := what_a_body_sees ha hf
  have hmem : u ∈ steps f.definition.body (a.inBody f) := by simp [hts]
  have hx := hnames u hmem "x"
  have hself := hnames u hmem "f"
  have hmissing := hnames u hmem "z"
  obtain ⟨-, hresult⟩ := hlast [t] u [] _ hts hreturn
  rw [hparameters] at hscope hx hself hmissing
  rw [hf'] at hself
  rw [hz] at hmissing
  exact ⟨ha, f, hf, hparameters, hscope, t, u, hts, congrArg Prod.fst hu, hx, hself, hmissing,
    hresult.trans hself⟩

end Evaluation

end FunctionObjects
