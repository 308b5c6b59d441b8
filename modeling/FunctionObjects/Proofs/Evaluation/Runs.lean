import FunctionObjects.Proofs.Evaluation.Changes
import FunctionObjects.Proofs.Realm.Creation

/-!
# Runs of an agent

`Agent.Command` lists what an agent can be told to do. A run is a series of commands to an agent at
its beginning, each of which may succeed or fail.

Every function that there is after a run was made by one of the commands, in a context that is known
at the time of the command: for a body it is built from the function whose body it is, and otherwise
it is the running one (`exists_command_of_slots?`).
-/

namespace FunctionObjects.Agent

open Store Evaluation

/-- What an agent can be told to do. -/
inductive Command : Type where
  | expression (e : Expression)
  | statements (body : List Statement)
  | instantiate (d : FunctionDefinition)
  | body (c : Closure)
  | enterBlock
  | leaveBlock

namespace Command

/-- The agent after a command, whether it succeeded or failed. -/
def perform (a : Agent) : Command → Agent
  | .expression e => finalState (Evaluation.expression e) a
  | .statements l => finalState (Evaluation.statements l) a
  | .instantiate d => finalState (Evaluation.instantiate d) a
  | .body c => finalState (Evaluation.body c) a
  | .enterBlock => finalState Evaluation.enterBlock a
  | .leaveBlock => a.pop

/-- The functions that an agent is given are functions of its heap. -/
def Fits (a : Agent) : Command → Prop
  | body c => a.closure? c.value = some c
  | expression _ | statements _ | instantiate _ | enterBlock | leaveBlock => True

instance (a : Agent) : (cmd : Command) → Decidable (cmd.Fits a)
  | body c => inferInstanceAs (Decidable (a.closure? c.value = some c))
  | expression _ | statements _ | instantiate _ | enterBlock | leaveBlock =>
    inferInstanceAs (Decidable True)

/-- The agent after a series of commands. -/
def performAll (a : Agent) (cmds : List Command) : Agent := cmds.foldl perform a

/-- Each of a series of commands fits the agent that those before it have led to. -/
def FitAll (a : Agent) : List Command → Prop
  | [] => True
  | cmd :: cmds => cmd.Fits a ∧ FitAll (cmd.perform a) cmds

instance decidableFitAll (a : Agent) : (cmds : List Command) → Decidable (FitAll a cmds)
  | [] => inferInstanceAs (Decidable True)
  | cmd :: cmds =>
    have := decidableFitAll (cmd.perform a) cmds
    inferInstanceAs (Decidable (cmd.Fits a ∧ FitAll (cmd.perform a) cmds))

/-- The context, but for its scope, in which the functions of a command are made. -/
def context? (a : Agent) : Command → Option Context
  | body c => (a.store.function? c.slots).map bodyContext
  | expression _ | statements _ | instantiate _ | enterBlock | leaveBlock => a.running?

/-- The slots are those of a function that the command makes. -/
def Makes (cmd : Command) (a : Agent) (f : FunctionSlots) : Prop :=
  ∃ c, cmd.context? a = some c ∧ f.MadeIn c

end Command

/-! ### One command -/

/-- The second agent comes from the first by changes of the store, and by leaving contexts and
entering others that differ from those that there were in the scope only. -/
structure Advances (made : FunctionSlots → Prop) (a a' : Agent) : Prop where
  heap : a'.heap = a.heap
  realm : a'.realm = a.realm
  contexts : ∀ c ∈ a'.contexts, ∃ c₀ ∈ a.contexts, ∃ e, c = c₀.inScope e
  store : Changes made False a.store a'.store

variable {made : FunctionSlots → Prop} {a a' : Agent}

theorem Keeps.advances (h : Keeps made a a') : Advances made a a' := by
  refine ⟨h.heap, h.realm, fun c hc => ?_, h.store⟩
  rw [h.contexts] at hc
  exact ⟨c, hc, c.scope, rfl⟩

theorem Command.permits {cmd : Command} (hcmd : cmd.context? a = a.running?) :
    a.Permits (cmd.Makes a) := by
  intro c hc f hf
  rw [← hcmd] at hc
  exact ⟨c, hc, hf⟩

/-- What a command does, however it ends. -/
theorem Command.advances (cmd : Command) (ha : a.Sound) :
    Advances (cmd.Makes a) a (cmd.perform a) ∧ (cmd.perform a).Sound := by
  have hkeeps : ∀ {a' : Agent}, Keeps (cmd.Makes a) a a' →
      Advances (cmd.Makes a) a a' ∧ a'.Sound := fun h => ⟨h.advances, ha.keeps h⟩
  cases cmd with
  | expression e =>
    exact hkeeps (keeps_expression ha (permits rfl) e).finalState
  | statements l =>
    exact hkeeps (keeps_statementsAfter .undefined l ha (permits rfl)).finalState
  | instantiate d =>
    exact hkeeps (keeps_instantiate ha (permits rfl) d).finalState
  | body c =>
    have hm : ∀ f, a.store.function? c.slots = some f → ∀ g : FunctionSlots,
        g.MadeIn (bodyContext f) → (body c).Makes a g := by
      intro f hf g hg
      refine ⟨bodyContext f, ?_, hg⟩
      rw [context?, hf]
      rfl
    exact hkeeps (keeps_body ha hm).finalState
  | enterBlock =>
    rw [perform]
    cases hc : a.running? with
    | none =>
      rw [finalState_of_error (enterBlock_of_none hc)]
      exact hkeeps (.refl a)
    | some c =>
      rw [finalState_of_ok (enterBlock_of_some hc)]
      have hmem : c ∈ a.contexts := List.mem_of_mem_head? hc
      have hnew : Keeps (enterBlock.Makes a) a (a.withScope c.scope) :=
        keeps_withScope (ha.contexts c hmem)
      refine ⟨⟨rfl, rfl, fun c' hc' => ?_, hnew.store⟩,
        (ha.keeps hnew).push (hasScope_withScope c.scope)⟩
      rcases List.mem_cons.1 hc' with rfl | hc'
      · exact ⟨c, hmem, _, rfl⟩
      · exact ⟨c', hc', c'.scope, rfl⟩
  | leaveBlock =>
    refine ⟨⟨rfl, rfl, fun c hc => ?_, .refl⟩, ha.pop⟩
    exact ⟨c, List.mem_of_mem_tail hc, c.scope, rfl⟩

/-! ### All commands -/

namespace Command

/-- The contexts of an agent differ in the scope only from those that there were at the beginning
of the run. -/
theorem contexts_performAll (cmds : List Command) (ha : a.Sound) :
    ∀ c ∈ (performAll a cmds).contexts, ∃ c₀ ∈ a.contexts, ∃ e, c = c₀.inScope e := by
  induction cmds generalizing a with
  | nil => exact fun c hc => ⟨c, hc, c.scope, rfl⟩
  | cons cmd cmds ih =>
    obtain ⟨hadvances, hsound⟩ := cmd.advances ha
    intro c hc
    obtain ⟨c₁, hc₁, e, rfl⟩ := ih hsound c hc
    obtain ⟨c₀, hc₀, e', rfl⟩ := hadvances.contexts c₁ hc₁
    exact ⟨c₀, hc₀, e, rfl⟩

/-- **Every function of a run was made by a command.** What is a function after a run was one before
it, or a command of the run has made it where there was nothing. -/
theorem exists_command_of_slots? {cmds : List Command} (ha : a.Sound) {r : ObjectRef}
    {f : FunctionSlots} (hf : (performAll a cmds).store.slots? r = some f) :
    (∃ g, a.store.slots? r = some g ∧ g.Becomes f) ∨
      ∃ before cmd after, cmds = before ++ cmd :: after ∧
        ¬ (performAll a before).store.Live r ∧
        (cmd.perform (performAll a before)).store.Live r ∧
        ∃ g, cmd.Makes (performAll a before) g ∧ g.Becomes f := by
  induction cmds generalizing a with
  | nil => exact .inl ⟨f, hf, .refl f⟩
  | cons cmd cmds ih =>
    obtain ⟨hadvances, hsound⟩ := cmd.advances ha
    -- either the rest of the run has made it, or it was there after the first command
    rcases ih hsound hf with ⟨g, hg, hgf⟩ | ⟨before, cmd', after, rfl, h⟩
    · rcases ha.functions.slots? hadvances.store hg with ⟨g', hg', hgg'⟩ | ⟨hr, g', hmakes, hgg'⟩
      · exact .inl ⟨g', hg', hgg'.trans hgf⟩
      · exact .inr ⟨[], cmd, cmds, rfl, hr, .of_slots? hg, g', hmakes, hgg'.trans hgf⟩
    · exact .inr ⟨cmd :: before, cmd', after, rfl, h⟩

end Command

/-! ### The beginning -/

/-- The store of an agent at its beginning. -/
def startStore : Store := Realm.afterNext (pushHeap {}) 0

theorem changes_startStore : Changes made False {} startStore := by
  have hheap : Change made False {} (pushHeap {}) := .newHeap
  have hcreate := Realm.create_eq (linked_empty.change hheap) (show HasHeap _ 0 by decide)
  exact .head hheap ((Realm.changes_create (by decide)).of_ok hcreate).1

theorem start_eq (settings : Settings) :
    start settings = .ok
      { store := startStore
        heap := 0
        realm := Realm.next (pushHeap {}) 0
        contexts := [.forScript (Realm.next (pushHeap {}) 0) settings.scriptStrict] } := by
  have hheap : Change (fun _ => True) False {} (pushHeap {}) := .newHeap
  rw [start, Realm.create_eq (linked_empty.change hheap) (by decide)]
  rfl

theorem sound_of_start {settings : Settings} (h : start settings = .ok a) : a.Sound := by
  rw [start_eq] at h
  cases h
  have hchanges : Changes (fun _ => True) False {} startStore := changes_startStore
  refine ⟨show startStore.HasHeap 0 by decide, fun c hc => ?_, scoped_empty.changes hchanges⟩
  rw [List.mem_singleton.1 hc]
  show startStore.HasScope (nextScope (pushHeap {}))
  decide

/-- There is no function at the beginning. -/
theorem function?_of_start {settings : Settings} (h : start settings = .ok a) (id : FunctionId) :
    a.store.function? id = none := by
  rw [start_eq] at h
  cases h
  rfl

theorem slots?_of_start {settings : Settings} (h : start settings = .ok a) (r : ObjectRef) :
    a.store.slots? r = none :=
  Option.bind_eq_none_iff.2 fun id _ => function?_of_start h id

end FunctionObjects.Agent
