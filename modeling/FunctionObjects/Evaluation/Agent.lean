import FunctionObjects.Function.Expression
import FunctionObjects.Realm.Creation
import FunctionObjects.Scope.Resolution
import FunctionObjects.Settings

/-!
# Agents

An agent runs code. It owns a heap, in which all functions that its code makes are put, a realm
created in that heap, and a stack of execution contexts, of which the innermost is running. It
begins with the context of a script and may be left without any, and then no code can run.
-/

namespace FunctionObjects

/-- An agent. The running context is the first of its contexts. -/
structure Agent : Type where
  store : Store
  heap : HeapId
  realm : Realm
  contexts : List Context
deriving Inhabited

/-- A computation of an agent. As with `Effect`, a failure undoes nothing. -/
abbrev Evaluation (α : Type) : Type := EStateM Error Agent α

namespace Agent

/-- An agent at its beginning: the heap holds what the realm needs, and a script is running. -/
def start (settings : Settings) : Except Error Agent :=
  let heap : HeapId := 0
  match Realm.create heap (Store.pushHeap {}) with
  | .ok realm store =>
    .ok { store, heap, realm, contexts := [.forScript realm settings.scriptStrict] }
  | .error e _ => .error e

def running? (a : Agent) : Option Context := a.contexts.head?

/-- The agent with one more context, which is now running. -/
def push (a : Agent) (c : Context) : Agent := { a with contexts := c :: a.contexts }

/-- The agent without its running context, if it has one. -/
def pop (a : Agent) : Agent := { a with contexts := a.contexts.tail }

/-- The function that a value names in the heap of the agent, if it is one. -/
def closure? (a : Agent) (v : Value) : Option Closure := Closure.ofValue? a.store a.heap v

end Agent

namespace Evaluation

variable {α : Type}

/-- An effect on the store, as a computation of the agent. -/
def onStore (act : Effect α) : Evaluation α := fun ⟨store, heap, realm, contexts⟩ =>
  match act store with
  | .ok x store => .ok x ⟨store, heap, realm, contexts⟩
  | .error e store => .error e ⟨store, heap, realm, contexts⟩

def running : Evaluation Context := fun a =>
  match a.running? with
  | some c => .ok c a
  | none => .error .noRunningContext a

def enter (c : Context) : Evaluation Unit := fun a => .ok () (a.push c)

/-- Run to the end of the context in which a computation runs, however the computation ends. -/
def leaving (act : Evaluation α) : Evaluation α := fun a =>
  match act a with
  | .ok x a' => .ok x a'.pop
  | .error e a' => .error e a'.pop

/-- Begin a context for a block: the running one, in a new scope inside its own. -/
def enterBlock : Evaluation ScopeId := do
  let c ← running
  let scope ← onStore (Effect.newScope { outer := some c.scope })
  enter (c.inScope scope)
  return scope

/-- Evaluate a function expression in the running context. -/
def instantiate (d : FunctionDefinition) : Evaluation Closure := do
  let c ← running
  let a ← get
  onStore (Closure.instantiate a.heap c d)

/-- The slots of a function. -/
def slots (c : Closure) : Evaluation FunctionSlots := do
  match (← get).store.function? c.slots with
  | some f => return f
  | none => throw (.refused (.danglingObject c.id))

end Evaluation

end FunctionObjects
