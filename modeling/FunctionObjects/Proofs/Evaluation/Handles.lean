import FunctionObjects.Proofs.Evaluation.Additions
import FunctionObjects.Proofs.Store.Closed

/-!
# Handles keep their meaning

An agent hands out objects as numbers: in the values that its commands return, in properties and in
bindings. None of these numbers ever dangles. The store is closed at the beginning, and what a
command builds on it leaves it so, also where the command fails in the middle. A value that is
returned is an object of the heap, or it was found under a name (`Agent.Holds`); in a closed store
this is the same. From then on the object stays where it is.
-/

namespace FunctionObjects

/-- The result of a computation, if it has one. -/
def Evaluation.result? {α : Type} (act : Evaluation α) (a : Agent) : Option α :=
  match act a with
  | .ok x _ => some x
  | .error _ _ => none

/-- What is known of the results of a computation is known of the one that it has. -/
theorem Evaluation.of_result? {α : Type} {R : Agent → Agent → Prop} {act : Evaluation α}
    {Q : α → Agent → Prop} {x : α} (h : Moves R act a Q) (hx : result? act a = some x) :
    Q x (finalState act a) := by
  unfold result? at hx
  split at hx
  · next heq =>
    cases hx
    rw [finalState_of_ok heq]
    exact (h.of_ok heq).2
  · cases hx

namespace Agent

open Store Evaluation

variable {a : Agent} {settings : Settings} {cmd : Command} {v : Value} {q : ObjectId}

namespace Command

/-- The value that a command returns if it succeeds. -/
def returned? (a : Agent) : Command → Option Value
  | expression e => result? (Evaluation.expression e) a
  | statements l => (result? (Evaluation.statements l) a).map Completion.value
  | instantiate d => (result? (Evaluation.instantiate d) a).map Closure.value
  | body c => result? (Evaluation.body c) a
  | enterBlock | leaveBlock => none

theorem holds_of_returned (ha : a.Genuine) (h : cmd.returned? a = some v) :
    (cmd.perform a).Holds v := by
  cases cmd with
  | expression e => exact of_result? (builds_expression ha.ready e) h
  | statements l =>
    obtain ⟨r, hr, rfl⟩ := Option.map_eq_some_iff.1 h
    have hbuilds := builds_statementsAfter .undefined l ha.ready (holds_undefined a)
    exact of_result? hbuilds hr
  | instantiate d =>
    obtain ⟨c, hc, rfl⟩ := Option.map_eq_some_iff.1 h
    exact .of_live (of_result? (builds_instantiate ha.ready d) hc)
  | body c => exact of_result? (builds_body ha c) h
  | enterBlock | leaveBlock => cases h

end Command

/-! ### Closed agents -/

/-- No handle dangles that is found in the heap of the agent, or in a scope. -/
def Closed (a : Agent) : Prop := a.store.Closed a.heap

theorem closed_of_start (h : start settings = .ok a) : a.Closed := by
  rw [start_eq] at h
  cases h
  have hempty : (pushHeap {}).Closed 0 := by
    refine ⟨fun _ _ _ _ _ ho => ?_, fun _ _ _ ho => ?_, fun _ _ _ _ hb => ?_⟩
    · cases ho
    · cases ho
    · cases hb
  exact hempty.afterNext (by decide)

theorem Closed.perform (hc : a.Closed) (ha : a.Genuine) (cmd : Command) :
    (cmd.perform a).Closed := by
  have hbuilds := cmd.builds ha
  unfold Closed
  rw [hbuilds.heap]
  exact hbuilds.store.closed hc

theorem Closed.performAll (hc : a.Closed) (ha : a.Genuine) (cmds : List Command) :
    (Command.performAll a cmds).Closed := by
  induction cmds generalizing a with
  | nil => exact hc
  | cons cmd cmds ih => exact ih (hc.perform ha cmd) (Command.genuine_perform ha cmd)

/-- A value that is an object and is found under some name is an object of the heap too. -/
theorem Closed.live_of_holds (hc : a.Closed) (h : a.Holds (.object q)) :
    a.store.Live (.allocated a.heap q) := by
  rcases h q rfl with hlive | ⟨e, name, b, hb, hq⟩
  · exact hlive
  · obtain ⟨f, hf, -⟩ := hc.bindings e name b q hb hq
    exact .of_slots? hf

/-- An object stays where it is while commands are performed. -/
theorem live_performAll (ha : a.Genuine) (cmds : List Command)
    (hq : a.store.Live (.allocated a.heap q)) :
    (Command.performAll a cmds).store.Live (.allocated (Command.performAll a cmds).heap q) := by
  induction cmds generalizing a with
  | nil => exact hq
  | cons cmd cmds ih =>
    refine ih (Command.genuine_perform ha cmd) ?_
    have hadds := (cmd.builds ha).adds
    rw [hadds.heap, live_allocated_iff, hadds.store.heapSize]
    exact Nat.lt_add_right _ (live_allocated_iff.1 hq)

/-- **No handle dangles.** After any commands to an agent, whether they succeeded or failed, the
objects that properties and bindings hold and that objects inherit from are in the heap, and so are
all those that were ever returned. -/
theorem no_dangling_handles (hstart : start settings = .ok a) (cmds : List Command) :
    (Command.performAll a cmds).Closed ∧
      ∀ before cmd after q, cmds = before ++ cmd :: after →
        cmd.returned? (Command.performAll a before) = some (.object q) →
        (Command.performAll a cmds).store.Live
          (.allocated (Command.performAll a cmds).heap q) := by
  have ha := genuine_of_start hstart
  have hc := closed_of_start hstart
  refine ⟨hc.performAll ha cmds, ?_⟩
  rintro before cmd after q rfl hq
  have ha' := Command.genuine_performAll ha before
  have hc' := (hc.performAll ha before).perform ha' cmd
  have hlive := hc'.live_of_holds (Command.holds_of_returned ha' hq)
  have hall : Command.performAll a (before ++ cmd :: after) =
      Command.performAll (cmd.perform (Command.performAll a before)) after := by
    simp only [Command.performAll, List.foldl_append, List.foldl_cons]
  rw [hall]
  exact live_performAll (Command.genuine_perform ha' cmd) after hlive

/-- A function that returns what its own name means. -/
def namesItself : FunctionDefinition :=
  .ofParts 0 (some "f") [] [.return (some (.identifier "f"))] .ordinary

/-- The function is made in a block, statements fail there, and then the body is run. -/
def nameItself : List Command :=
  [.enterBlock, .instantiate namesItself, .statements failing,
    .body ⟨7, .allocated 0 7, ⟨0⟩⟩, .leaveBlock]

/-- The function that its body finds under its name exists to the end, as all objects do. -/
theorem no_dangling_handles_nameItself :
    start { scriptStrict := true } = .ok strictStart ∧
      (Command.performAll strictStart nameItself).Closed ∧
      (Command.body ⟨7, .allocated 0 7, ⟨0⟩⟩).returned?
        (Command.performAll strictStart (nameItself.take 3)) = some (.object 7) ∧
      (Command.performAll strictStart nameItself).store.Live (.allocated 0 7) := by
  obtain ⟨hclosed, hreturned⟩ := no_dangling_handles start_strict nameItself
  have hbody : (Command.body ⟨7, .allocated 0 7, ⟨0⟩⟩).returned?
      (Command.performAll strictStart (nameItself.take 3)) = some (.object 7) := by
    decide +kernel
  have hheap : (Command.performAll strictStart nameItself).heap = 0 := by decide +kernel
  have hlive := hreturned (nameItself.take 3) (.body ⟨7, .allocated 0 7, ⟨0⟩⟩) [.leaveBlock] 7 rfl
    hbody
  rw [hheap] at hlive
  exact ⟨start_strict, hclosed, hbody, hlive⟩

end Agent

end FunctionObjects
