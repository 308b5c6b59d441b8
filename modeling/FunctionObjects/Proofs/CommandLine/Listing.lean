import FunctionObjects.CommandLine.Listing
import FunctionObjects.Proofs.CommandLine.Request
import FunctionObjects.Proofs.Evaluation.Runs
import FunctionObjects.Proofs.Store.Building
import FunctionObjects.Proofs.Text.CodeUnits

/-!
# What the listing says

Once the arguments are accepted, nothing can go wrong any more, however many functions are asked
for. The heap begins with the seven objects of the realm. Every function adds its group behind them,
so the number of functions made so far tells the number of the next one (`Listing`), and nothing
else in a line depends on what was made before.
-/

namespace FunctionObjects.CommandLine

open Store Closure Evaluation

/-! ### The lines -/

/-- The form in which the number of an object is shown. -/
def numbered (id : ObjectId) : String := "#" ++ toString id

/-- The line about a function that was asked for, with the number of the function and the number of
the object that its instances inherit from. An asynchronous function has no instances. -/
def Arguments.describe (a : Arguments) (params : List Parameter) (i : Intrinsics)
    (function instances : ObjectId) : String :=
  let species := a.speciesOrDefault
  let strictThis := a.strict || (species == .generator && a.scriptStrict)
  let about :=
    [numbered function,
      Quoted.quote (a.name.getD ""),
      "length=" ++ (Double.ofNat (params.takeWhile fun p => p.form == .plain).length).toText,
      "species=" ++ species.label,
      "this=" ++ (if strictThis then "Strict" else "Global"),
      "strict=" ++ truth a.strict,
      "constructor=" ++ truth (species = .ordinary),
      "prototype=" ++ (if species = .async then "-" else numbered instances),
      "[[Prototype]]=" ++ numbered (i.functionPrototypeFor species)]
  let aboutInstances :=
    match species with
    | .ordinary => ["prototype.[[Prototype]]=" ++ numbered i.objectPrototype]
    | .async => []
    | .generator => ["prototype.[[Prototype]]=" ++ numbered i.generatorPrototype]
    | .asyncGenerator => ["prototype.[[Prototype]]=" ++ numbered i.asyncGeneratorPrototype]
  String.intercalate " " (about ++ aboutInstances)

theorem label_thisModeFor (d : FunctionDefinition) (context : Context) :
    (thisModeFor d context).label =
      if d.strict || (d.species == .generator && context.strict) then "Strict" else "Global" := by
  unfold thisModeFor
  cases d.species <;> cases d.strict <;> cases context.strict <;> rfl

/-- What an object inherits from knows its handle. -/
theorem prototypeId?_of_object? {s : Store} (hs : s.Linked) {r q : ObjectRef} {o : Object}
    (ho : s.object? r = some o) (hq : o.prototype = some q) :
    s.prototypeId? o = q.numberInHeap? := by
  have hlive : s.Live q := hs.live r q (by rw [prototype?, ho]; exact hq)
  obtain ⟨p, hp⟩ := Option.isSome_iff_exists.1 hlive
  rw [prototypeId?, hq, Option.bind_some, hp, Option.bind_some, hs.told q p hp]

/-- The line about a new function, with the object that its instances inherit from behind it in the
heap. -/
theorem line_functionObject {s : Store} (hs : s.Linked) {h : HeapId} {context : Context}
    {a : Arguments} (params : List Parameter) {c : Closure} {slots : FunctionId} (scope : ScopeId)
    (hstrict : context.strict = a.scriptStrict) :
    let d := a.toDefinition params
    let o := functionObject h context d c.id slots
      (if d.species = .async then [] else [instanceLink (c.id + 1)])
    s.object? (.allocated h c.id) = some o →
      s.prototype? (.allocated h (c.id + 1)) =
        (context.realm.intrinsics.instanceParent? a.speciesOrDefault).map (.allocated h) →
      line s h c o (functionSlots context d scope) =
        a.describe params context.realm.intrinsics c.id (c.id + 1) := by
  intro d o ho hi
  have hname : o.functionName.toText = a.name.getD "" := by
    rw [functionName_functionObject, CodeUnits.toText_ofString]
    rfl
  have hlength : o.functionLength =
      Double.ofNat (params.takeWhile fun p => p.form == .plain).length := by
    rw [functionLength_functionObject, a.expectedArgumentCount_toDefinition]
  have hstrictCode : d.strict = a.strict := a.isStrictBody_body
  have hspecies : d.species = a.speciesOrDefault := rfl
  have hmode := label_thisModeFor d context
  have hinstances : o.instancePrototype? =
      if d.species = .async then none else some (c.id + 1) := by
    rw [instancePrototype?_functionObject]
    split <;> rfl
  have hobject : ∀ q, context.realm.intrinsics.instanceParent? d.species = some q →
      ∃ i, (s.get? h (c.id + 1)).bind s.object? = some i ∧ s.prototypeId? i = some q := by
    intro q hq
    rw [← hspecies, hq] at hi
    obtain ⟨i, hobject, hprototype⟩ := Option.bind_eq_some_iff.1 hi
    refine ⟨i, ?_, prototypeId?_of_object? hs hobject hprototype⟩
    rw [hs.get?_of_lt (live_allocated_iff.1 (.of_object? hobject)), Option.bind_some, hobject]
  have hprototype : s.prototypeId? o =
      some (context.realm.intrinsics.functionPrototypeFor d.species) :=
    prototypeId?_of_object? hs ho rfl
  have hfspecies : (functionSlots context d scope).species = d.species := rfl
  have hfstrict : (functionSlots context d scope).strict = d.strict := rfl
  have hfmode : (functionSlots context d scope).thisMode = thisModeFor d context := rfl
  have hconstructor :
      (functionSlots context d scope).isConstructor = decide (d.species = .ordinary) := rfl
  rw [hstrictCode, hstrict] at hmode
  unfold line Arguments.describe
  rw [hname, hlength, hprototype, hinstances, hfspecies, hfmode, hfstrict, hconstructor, hmode,
    hstrictCode, ← hspecies]
  cases hd : d.species with
  | async => rfl
  | ordinary | generator | asyncGenerator =>
    obtain ⟨i, hobject, hprototype⟩ := hobject _ (by rw [hd]; rfl)
    simp [hobject, hprototype, handle, numbered]

/-! ### The course of the listing -/

/-- The context in which all functions of a listing are made. -/
def Arguments.context (a : Arguments) : Context :=
  .forScript (Realm.next (pushHeap {}) 0) a.scriptStrict

theorem Arguments.created_context (a : Arguments) : a.context.realm.Created :=
  ⟨0, Agent.startStore, Realm.CreatedIn.next (.perform .refl .newHeap trivial) (by decide)⟩

/-- The agent of a listing when a number of functions have been made. -/
structure Listing (a : Arguments) (n : Nat) (agent : Agent) : Prop where
  linked : agent.store.Linked
  size : agent.store.heapSize 0 = 7 + n * a.speciesOrDefault.groupSize
  heap : agent.heap = 0
  running : agent.running? = some a.context

theorem Arguments.scriptStrict_settings (a : Arguments) :
    a.settings.scriptStrict = a.scriptStrict := by
  unfold Arguments.settings
  cases a.logFilter <;> rfl

/-- The agent with which the listing begins. -/
theorem exists_start (a : Arguments) :
    ∃ agent, Agent.start a.settings = .ok agent ∧ agent.realm = a.context.realm ∧
      Listing a 0 agent := by
  refine ⟨_, Agent.start_eq _, rfl, ?_, ?_, rfl, ?_⟩
  · exact (Realm.reachable_afterNext (.perform .refl .newHeap trivial) (by decide)).linked
  · rw [Nat.zero_mul]
    rfl
  · rw [a.scriptStrict_settings]
    rfl

theorem nextLine_of_ok {d : FunctionDefinition} {agent agent' : Agent} {c : Closure} {o : Object}
    {f : FunctionSlots} (hmake : Evaluation.instantiate d agent = .ok c agent')
    (hf : agent'.store.function? c.slots = some f) (ho : agent'.store.object? c.ref = some o) :
    nextLine d agent = .ok (line agent'.store agent'.heap c o f) agent' := by
  have hget : (get : Evaluation Agent) agent' = .ok agent' agent' := rfl
  rw [nextLine, bind_of_ok hmake, bind_of_ok (slots_of_some hf), bind_of_ok hget]
  simp only [ho]
  rfl

namespace Listing

variable {a : Arguments} {n : Nat} {agent : Agent}

theorem functionPrototypeFor_lt (hn : Listing a n agent) (species : Species) :
    a.context.realm.intrinsics.functionPrototypeFor species < agent.store.heapSize 0 := by
  rw [hn.size]
  exact Nat.lt_add_right _ (Intrinsics.functionPrototypeFor_lt 0 _)

/-- The next function has the first number that is free. -/
theorem instantiate_eq (hn : Listing a n agent) (params : List Parameter) :
    Evaluation.instantiate (a.toDefinition params) agent = .ok (agent.store.nextClosure 0)
      { agent with store := agent.store.afterFunction 0 a.context (a.toDefinition params) } := by
  have hmake : Closure.instantiate 0 a.context (a.toDefinition params) agent.store = _ :=
    instantiate_of_created hn.linked a.created_context (hn.functionPrototypeFor_lt _)
  rw [instantiate_of_some hn.running]
  exact onStore_of_ok (hn.heap ▸ hmake)

/-- With one more function made, the listing goes on as before. -/
theorem afterFunction (hn : Listing a n agent) (params : List Parameter) :
    Listing a (n + 1)
      { agent with store := agent.store.afterFunction 0 a.context (a.toDefinition params) } := by
  have hp := hn.functionPrototypeFor_lt (a.toDefinition params).species
  refine ⟨linked_afterFunction hn.linked a.created_context hp, ?_, hn.heap, hn.running⟩
  show (agent.store.afterFunction 0 a.context (a.toDefinition params)).heapSize 0 = _
  rw [heapSize_afterFunction (hasHeap_of_lt_heapSize hp), hn.size, Nat.succ_mul, Nat.add_assoc]
  rfl

/-- One more function is made and described. -/
theorem nextLine_eq (hn : Listing a n agent) (params : List Parameter) :
    nextLine (a.toDefinition params) agent =
      .ok (a.describe params a.context.realm.intrinsics
          (7 + n * a.speciesOrDefault.groupSize) (8 + n * a.speciesOrDefault.groupSize))
        { agent with store := agent.store.afterFunction 0 a.context (a.toDefinition params) } := by
  let s := agent.store
  let d := a.toDefinition params
  -- the new objects are the group, numbered on from the old ones
  have hp := hn.functionPrototypeFor_lt d.species
  have hread := object?_withFunction (hasHeap_of_lt_heapSize hp) a.context d
    (selfBinding (s.heapSize 0))
  have hobject : (s.afterFunction 0 a.context d).object? (s.nextClosure 0).ref = _ :=
    (hread 0).trans (group_zero _ _)
  have hslots := (function?_afterFunction s 0 a.context d s.nextFunction).trans (if_pos rfl)
  have hi : (s.afterFunction 0 a.context d).prototype? (.allocated 0 (s.heapSize 0 + 1)) = _ :=
    (congrArg (Option.bind · Object.prototype) (hread 1)).trans (group_one _ _)
  have hline := line_functionObject (linked_afterFunction hn.linked a.created_context hp) params
    (c := s.nextClosure 0) (s.scopeFor a.context d.bindingName) rfl hobject hi
  have hnumber : 8 + n * a.speciesOrDefault.groupSize = s.heapSize 0 + 1 := by
    rw [hn.size]
    omega
  rw [nextLine_of_ok (hn.instantiate_eq params) hslots hobject, hnumber, ← hn.size]
  show EStateM.Result.ok (line (s.afterFunction 0 a.context d) agent.heap _ _ _) _ = _
  rw [hn.heap]
  exact congrArg (EStateM.Result.ok · _) hline

/-- The lines go on as long as functions are asked for. -/
theorem linesAfter_eq (hn : Listing a n agent) (params : List Parameter) (lines : Array String)
    (count : Nat) :
    ∃ agent', linesAfter (a.toDefinition params) lines count agent =
      .ok (lines ++ ((List.range' n count).map fun i =>
        a.describe params a.context.realm.intrinsics (7 + i * a.speciesOrDefault.groupSize)
          (8 + i * a.speciesOrDefault.groupSize)).toArray) agent' := by
  induction count generalizing n agent lines with
  | zero => exact ⟨agent, by simp [linesAfter, pure, EStateM.pure]⟩
  | succ count ih =>
    obtain ⟨agent', hrest⟩ := ih (hn.afterFunction params) (lines.push _)
    refine ⟨agent', (bind_of_ok (hn.nextLine_eq params)).trans (hrest.trans ?_)⟩
    rw [List.range'_succ, List.map_cons]
    simp

end Listing

/-- **The listing says what was asked for, as often as asked for.** If the arguments describe a
function, the run succeeds and there are as many lines as functions were asked for. The lines differ
in the number of the function alone and, unless it is asynchronous, in the number of the object that
its instances inherit from. Each function has the first number that is free, and that object comes
next. -/
theorem accepted_listed {a : Arguments} {d : FunctionDefinition} (hd : a.definition = .ok d) :
    ∃ params agent lines, a.parameters = .ok params ∧ Agent.start a.settings = .ok agent ∧
      a.outcome = .listed lines ∧ lines.length = a.repetitions ∧
      ∀ i < a.repetitions, lines[i]? =
        some (a.describe params agent.realm.intrinsics (7 + i * a.speciesOrDefault.groupSize)
          (8 + i * a.speciesOrDefault.groupSize)) := by
  obtain ⟨params, hparams, rfl⟩ := Arguments.exists_parameters hd
  obtain ⟨agent, hstart, hrealm, hlisting⟩ := exists_start a
  obtain ⟨agent', hlines⟩ := hlisting.linesAfter_eq params #[] a.repetitions
  let lines := (List.range' 0 a.repetitions).map fun i =>
    a.describe params a.context.realm.intrinsics (7 + i * a.speciesOrDefault.groupSize)
      (8 + i * a.speciesOrDefault.groupSize)
  have hlisting : a.listing = .ok lines := by
    rw [Arguments.listing, hd, hstart]
    simp only [Except.mapError, bind, Except.bind, hlines, Array.empty_append]
    rfl
  refine ⟨params, agent, lines, hparams, hstart, ?_, ?_, fun i hi => ?_⟩
  · rw [Arguments.outcome, hlisting]
  · rw [List.length_map, List.length_range']
  · rw [hrealm, List.getElem?_map, List.getElem?_range' hi, Nat.one_mul, Nat.zero_add]
    rfl

/-- Three functions in a strict script, each with an object for its instances. -/
theorem accepted_listed_generators :
    let a : Arguments := ⟨some "g", some .generator, ["x", "...xs"], false, true, some 3, none⟩
    ∃ lines, a.outcome = .listed lines ∧ lines.length = 3 ∧
      lines[2]? = some ("#11 \"g\" length=1 species=Generator this=Strict strict=false " ++
        "constructor=false prototype=#12 [[Prototype]]=#4 prototype.[[Prototype]]=#3") := by
  intro a
  have hparams : a.parameters = .ok [⟨"x", .plain⟩, ⟨"xs", .rest⟩] := rfl
  have hd : a.definition = .ok (a.toDefinition [⟨"x", .plain⟩, ⟨"xs", .rest⟩]) := rfl
  obtain ⟨params, agent, lines, hparams', hstart, hrun, hlength, hlines⟩ := accepted_listed hd
  cases hparams.symm.trans hparams'
  cases (Agent.start_eq a.settings).symm.trans hstart
  refine ⟨lines, hrun, hlength, (hlines 2 (by decide)).trans ?_⟩
  decide +kernel

end FunctionObjects.CommandLine
