import FunctionObjects.Proofs.Evaluation.Orderly

/-!
# The steps of an execution

Of a tree of statements only the leaves do anything, the expressions and the `return`s. `steps`
follows the execution of a list of statements and notes each of them when its turn comes: which it
is, in which block it stands, and the agent as it finds it. What follows a failure or a `return` is
not executed and not noted.

A block is known by the way that leads to it, the places of the blocks around it and its own. Since
nothing is executed twice in one execution of a list, the way to a block tells the execution of that
block from those of all others, and the length of the way is its depth.

What is said of executions is proved by induction on the statements, along the execution. The cases
are always the same, and `HoldsAlong` names them. It also keeps the agent orderly and the context
running, so that no proof has to carry this along.
-/

namespace FunctionObjects

/-! ### Statements without blocks -/

/-- The statement does something by itself. -/
def Statement.IsAtomic : Statement → Prop
  | .expression _ | .return _ => True
  | .empty | .block _ => False

mutual

/-- What is left of a statement when blocks are dissolved and empty statements are left out. -/
def Statement.flatten : Statement → List Statement
  | .empty => []
  | .expression e => [.expression e]
  | .return e => [.return e]
  | .block body => Statement.flattenAll body

/-- A list of statements with every block replaced by what is in it, and without empty statements.
-/
def Statement.flattenAll : List Statement → List Statement
  | [] => []
  | s :: rest => s.flatten ++ Statement.flattenAll rest

end

namespace Statement

theorem IsAtomic.flatten {s : Statement} (hs : s.IsAtomic) : s.flatten = [s] := by
  cases s with
  | expression | «return» => rfl
  | empty | block => exact hs.elim

theorem flattenAll_singleton (s : Statement) : flattenAll [s] = s.flatten := by
  rw [flattenAll, flattenAll, List.append_nil]

end Statement

/-! ### How executions end -/

/-- The value that was returned, if it was a `return` that ended the list. -/
def Completion.returned? : Completion → Option Value
  | .normal _ => none
  | .returned v => some v

/-- How the execution of statements has ended, and the store that it has left: with a failure, after
the last statement, or with the value of a `return`. -/
structure Ending : Type where
  outcome : Except Error (Option Value)
  store : Store

namespace Evaluation

open Agent

variable {act : Evaluation Completion} {a b : Agent} {c : Context} {s : Statement}
  {l l' rest : List Statement} {v last : Value}

def ending (act : Evaluation Completion) (a : Agent) : Ending :=
  match act a with
  | .ok r a' => ⟨.ok r.returned?, a'.store⟩
  | .error e a' => ⟨.error e, a'.store⟩

/-- The execution comes to the end of the statements, and what follows is executed. -/
def Completes (act : Evaluation Completion) (a : Agent) : Prop :=
  (ending act a).outcome = .ok none

theorem completes_iff : Completes act a ↔ ∃ v b, act a = .ok (.normal v) b := by
  unfold Completes ending
  constructor
  · intro h
    split at h
    · next r b hact =>
      cases r with
      | normal v => exact ⟨v, b, hact⟩
      | returned => cases h
    · cases h
  · rintro ⟨v, b, hact⟩
    rw [hact]
    rfl

theorem ending_of_normal (h : act a = .ok (.normal v) b) : ending act a = ⟨.ok none, b.store⟩ := by
  rw [ending, h]
  rfl

/-- Leaving a context changes nothing else. -/
theorem ending_leaving (act : Evaluation Completion) (a : Agent) :
    ending (leaving act) a = ending act a := by
  unfold ending leaving
  cases act a <;> rfl

theorem finalState_leaving {α : Type} (act : Evaluation α) (a : Agent) :
    finalState (leaving act) a = (finalState act a).pop := by
  unfold finalState leaving
  cases act a <;> rfl

theorem ending_of_eq {act' : Evaluation Completion} (h : act a = act' b) :
    ending act a = ending act' b := by
  rw [ending, ending, h]

theorem finalState_of_eq {α : Type} {act act' : Evaluation α} (h : act a = act' b) :
    finalState act a = finalState act' b := by
  rw [finalState, finalState, h]

/-! ### From one statement to the next -/

theorem statementsAfter_cons_of_normal (h : statement s a = .ok (.normal v) b) :
    statementsAfter last (s :: rest) a = statementsAfter v rest b := by
  rw [statementsAfter, bind_of_ok h]

theorem statementsAfter_cons_of_not_completes (h : ¬ Completes (statement s) a) :
    statementsAfter last (s :: rest) a = statement s a := by
  rw [statementsAfter]
  cases hs : statement s a with
  | error e b => rw [bind_of_error hs]
  | ok r b =>
    rw [bind_of_ok hs]
    cases r with
    | normal v => exact absurd (completes_iff.2 ⟨v, b, hs⟩) h
    | returned v => rfl

/-- The value that goes in is the value of a list without statements, and nothing else. -/
theorem ending_statementsAfter (last : Value) (l : List Statement) (a : Agent) :
    ending (statementsAfter last l) a = ending (statements l) a := by
  cases l with
  | nil => rfl
  | cons s rest => rw [statements, statementsAfter, statementsAfter]

theorem finalState_statementsAfter (last : Value) (l : List Statement) (a : Agent) :
    finalState (statementsAfter last l) a = finalState (statements l) a := by
  cases l with
  | nil => rfl
  | cons s rest => rw [statements, statementsAfter, statementsAfter]

theorem ending_cons_of_normal (h : statement s a = .ok (.normal v) b) :
    ending (statements (s :: rest)) a = ending (statements rest) b :=
  (ending_of_eq (statementsAfter_cons_of_normal h)).trans (ending_statementsAfter v rest b)

theorem finalState_cons_of_normal (h : statement s a = .ok (.normal v) b) :
    finalState (statements (s :: rest)) a = finalState (statements rest) b :=
  (finalState_of_eq (statementsAfter_cons_of_normal h)).trans (finalState_statementsAfter v rest b)

theorem statements_cons_of_not_completes (h : ¬ Completes (statement s) a) :
    statements (s :: rest) a = statement s a :=
  statementsAfter_cons_of_not_completes h

/-- A statement is executed in the same way alone. -/
theorem ending_singleton (s : Statement) (a : Agent) :
    ending (statements [s]) a = ending (statement s) a := by
  by_cases h : Completes (statement s) a
  · obtain ⟨v, b, hs⟩ := completes_iff.1 h
    rw [ending_cons_of_normal hs, ending_of_normal hs]
    rfl
  · exact ending_of_eq (statements_cons_of_not_completes h)

theorem statementsAfter_append_of_normal (h : statementsAfter last l a = .ok (.normal v) b) :
    statementsAfter last (l ++ l') a = statementsAfter v l' b := by
  induction l generalizing a last with
  | nil =>
    cases h
    rfl
  | cons s l ih =>
    by_cases hs : Completes (statement s) a
    · obtain ⟨w, a', ha'⟩ := completes_iff.1 hs
      rw [statementsAfter_cons_of_normal ha'] at h
      rw [List.cons_append, statementsAfter_cons_of_normal ha', ih h]
    · rw [statementsAfter_cons_of_not_completes hs] at h
      exact absurd (completes_iff.2 ⟨v, b, h⟩) hs

theorem statementsAfter_append_of_not_completes (h : ¬ Completes (statementsAfter last l) a) :
    statementsAfter last (l ++ l') a = statementsAfter last l a := by
  induction l generalizing a last with
  | nil => exact absurd rfl h
  | cons s l ih =>
    by_cases hs : Completes (statement s) a
    · obtain ⟨w, a', ha'⟩ := completes_iff.1 hs
      have hrest : ¬ Completes (statementsAfter w l) a' := by
        rwa [Completes, ending_of_eq (statementsAfter_cons_of_normal ha')] at h
      rw [List.cons_append, statementsAfter_cons_of_normal ha', statementsAfter_cons_of_normal ha',
        ih hrest]
    · rw [List.cons_append, statementsAfter_cons_of_not_completes hs,
        statementsAfter_cons_of_not_completes hs]

theorem ending_append_of_normal (h : statements l a = .ok (.normal v) b) :
    ending (statements (l ++ l')) a = ending (statements l') b :=
  (ending_of_eq (statementsAfter_append_of_normal h)).trans (ending_statementsAfter v l' b)

theorem ending_append_of_not_completes (h : ¬ Completes (statements l) a) :
    ending (statements (l ++ l')) a = ending (statements l) a :=
  ending_of_eq (statementsAfter_append_of_not_completes h)

theorem statement_block (hc : a.running? = some c) (body : List Statement) :
    statement (.block body) a = leaving (statements body) (a.inBlock c) := by
  rw [statement, bind_of_ok (enterBlock_of_some hc)]
  rfl

theorem ending_block (hc : a.running? = some c) (body : List Statement) :
    ending (statement (.block body)) a = ending (statements body) (a.inBlock c) :=
  (ending_of_eq (statement_block hc body)).trans (ending_leaving _ _)

theorem finalState_block (hc : a.running? = some c) (body : List Statement) :
    finalState (statement (.block body)) a = (finalState (statements body) (a.inBlock c)).pop :=
  (finalState_of_eq (statement_block hc body)).trans (finalState_leaving _ _)

/-! ### The steps -/

end Evaluation

/-- An expression statement or `return` that is executed: the way to the block in which it stands,
from the inside outwards, the statement, and the agent at that moment. -/
structure AtomicStep : Type where
  block : List Nat
  statement : Statement
  agent : Agent

namespace AtomicStep

/-- The agent after a step. -/
def after (t : AtomicStep) : Agent := finalState (Evaluation.statement t.statement) t.agent

def ending (t : AtomicStep) : Ending := Evaluation.ending (Evaluation.statement t.statement) t.agent

/-- The step is neither a failure nor a `return`. -/
def Completes (t : AtomicStep) : Prop :=
  Evaluation.Completes (Evaluation.statement t.statement) t.agent

end AtomicStep

namespace Evaluation

open Agent

variable {a b : Agent} {c : Context} {s : Statement} {l l' rest : List Statement} {v : Value}
  {block : List Nat} {place : Nat}

mutual

/-- The steps of a statement at a place of a block. -/
def stepsOfStatement (block : List Nat) (place : Nat) : Statement → Agent → List AtomicStep
  | .empty, _ => []
  | .expression e, a => [⟨block, .expression e, a⟩]
  | .return e, a => [⟨block, .return e, a⟩]
  | .block body, a =>
    match enterBlock a with
    | .ok _ b => stepsOfStatements (place :: block) 0 body b
    | .error _ _ => []

/-- The steps of the statements of a block from a place on. What comes after a failure or a `return`
is not executed. -/
def stepsOfStatements (block : List Nat) (place : Nat) : List Statement → Agent → List AtomicStep
  | [], _ => []
  | s :: rest, a =>
    stepsOfStatement block place s a ++
      match statement s a with
      | .ok (.normal _) b => stepsOfStatements block (place + 1) rest b
      | .ok (.returned _) _ | .error _ _ => []

end

/-- The steps of the execution of a list of statements. -/
def steps (l : List Statement) (a : Agent) : List AtomicStep := stepsOfStatements [] 0 l a

theorem stepsOfStatement_of_isAtomic (hs : s.IsAtomic) :
    stepsOfStatement block place s a = [⟨block, s, a⟩] := by
  cases s with
  | expression | «return» => rw [stepsOfStatement]
  | empty | block => exact hs.elim

theorem stepsOfStatement_block (hc : a.running? = some c) (body : List Statement) :
    stepsOfStatement block place (.block body) a =
      stepsOfStatements (place :: block) 0 body (a.inBlock c) := by
  rw [stepsOfStatement, enterBlock_of_some hc]
  rfl

theorem stepsOfStatements_cons_of_normal (h : statement s a = .ok (.normal v) b) :
    stepsOfStatements block place (s :: rest) a =
      stepsOfStatement block place s a ++ stepsOfStatements block (place + 1) rest b := by
  rw [stepsOfStatements, h]

theorem stepsOfStatements_cons_of_not_completes (h : ¬ Completes (statement s) a) :
    stepsOfStatements block place (s :: rest) a = stepsOfStatement block place s a := by
  rw [stepsOfStatements]
  cases hs : statement s a with
  | error e b => exact List.append_nil _
  | ok r b =>
    cases r with
    | normal v => exact absurd (completes_iff.2 ⟨v, b, hs⟩) h
    | returned v => exact List.append_nil _

theorem stepsOfStatements_singleton (block : List Nat) (place : Nat) (s : Statement) (a : Agent) :
    stepsOfStatements block place [s] a = stepsOfStatement block place s a := by
  by_cases h : Completes (statement s) a
  · obtain ⟨v, b, hb⟩ := completes_iff.1 h
    rw [stepsOfStatements_cons_of_normal hb]
    exact List.append_nil _
  · exact stepsOfStatements_cons_of_not_completes h

theorem stepsOfStatements_append_of_normal {last : Value}
    (h : statementsAfter last l a = .ok (.normal v) b) :
    stepsOfStatements block place (l ++ l') a =
      stepsOfStatements block place l a ++ stepsOfStatements block (place + l.length) l' b := by
  induction l generalizing a last place with
  | nil =>
    cases h
    rfl
  | cons s l ih =>
    by_cases hs : Completes (statement s) a
    · obtain ⟨w, a', ha'⟩ := completes_iff.1 hs
      rw [statementsAfter_cons_of_normal ha'] at h
      rw [List.cons_append, stepsOfStatements_cons_of_normal ha',
        stepsOfStatements_cons_of_normal ha', ih h, List.append_assoc, List.length_cons,
        Nat.add_right_comm, Nat.add_assoc]
    · rw [statementsAfter_cons_of_not_completes hs] at h
      exact absurd (completes_iff.2 ⟨v, b, h⟩) hs

theorem stepsOfStatements_append_of_not_completes {last : Value}
    (h : ¬ Completes (statementsAfter last l) a) :
    stepsOfStatements block place (l ++ l') a = stepsOfStatements block place l a := by
  induction l generalizing a last place with
  | nil => exact absurd rfl h
  | cons s l ih =>
    by_cases hs : Completes (statement s) a
    · obtain ⟨w, a', ha'⟩ := completes_iff.1 hs
      have hrest : ¬ Completes (statementsAfter w l) a' := by
        rwa [Completes, ending_of_eq (statementsAfter_cons_of_normal ha')] at h
      rw [List.cons_append, stepsOfStatements_cons_of_normal ha',
        stepsOfStatements_cons_of_normal ha', ih hrest]
    · rw [List.cons_append, stepsOfStatements_cons_of_not_completes hs,
        stepsOfStatements_cons_of_not_completes hs]

/-! ### Induction along an execution -/

/-- `P` is about a statement at a place of a block, `Q` about the statements of a block from a place
on, and both are about an orderly agent and its running context. They hold along executions if `P`
holds of what has no parts, passes from the inside of a block to the block, and makes `Q` pass from
the rest of a list to the list. -/
structure HoldsAlong (P : List Nat → Nat → Statement → Agent → Context → Prop)
    (Q : List Nat → Nat → List Statement → Agent → Context → Prop) : Prop where
  empty {block : List Nat} {place : Nat} {a : Agent} {c : Context} :
    a.Orderly → a.running? = some c → P block place .empty a c
  atomic {block : List Nat} {place : Nat} {s : Statement} {a : Agent} {c : Context} :
    a.Orderly → a.running? = some c → s.IsAtomic → P block place s a c
  inside {block : List Nat} {place : Nat} {body : List Statement} {a : Agent} {c : Context} :
    a.Orderly → a.running? = some c →
    Q (place :: block) 0 body (a.inBlock c) (c.inScope a.store.nextScope) →
    P block place (.block body) a c
  nil {block : List Nat} {place : Nat} {a : Agent} {c : Context} :
    a.Orderly → a.running? = some c → Q block place [] a c
  normal {block : List Nat} {place : Nat} {s : Statement} {rest : List Statement} {a b : Agent}
    {c : Context} {v : Value} :
    a.Orderly → a.running? = some c → statement s a = .ok (.normal v) b → P block place s a c →
    b.Orderly → Q block (place + 1) rest b c → Q block place (s :: rest) a c
  /-- A failure or a `return`. -/
  stop {block : List Nat} {place : Nat} {s : Statement} {rest : List Statement} {a : Agent}
    {c : Context} :
    a.Orderly → a.running? = some c → ¬ Completes (statement s) a → P block place s a c →
    Q block place (s :: rest) a c

namespace HoldsAlong

variable {P : List Nat → Nat → Statement → Agent → Context → Prop}
  {Q : List Nat → Nat → List Statement → Agent → Context → Prop}

mutual

theorem statement (h : HoldsAlong P Q) (block : List Nat) (place : Nat) (s : Statement)
    {a : Agent} {c : Context} (ha : a.Orderly) (hc : a.running? = some c) :
    P block place s a c := by
  match s with
  | .empty => exact h.empty ha hc
  | .expression _ => exact h.atomic ha hc trivial
  | .return _ => exact h.atomic ha hc trivial
  | .block body =>
    have hbody := h.statements (place :: block) 0 body (ha.later_inBlock hc).orderly
      (a.running?_inBlock c)
    exact h.inside ha hc hbody

theorem statements (h : HoldsAlong P Q) (block : List Nat) (place : Nat) (l : List Statement)
    {a : Agent} {c : Context} (ha : a.Orderly) (hc : a.running? = some c) :
    Q block place l a c := by
  match l with
  | [] => exact h.nil ha hc
  | s :: rest =>
    have hs := h.statement block place s ha hc
    by_cases hcompletes : Completes (Evaluation.statement s) a
    · obtain ⟨v, b, hb⟩ := completes_iff.1 hcompletes
      -- the agent after the statement is orderly, and the same context is running
      have hlater := ha.later_statement s
      rw [finalState_of_ok hb] at hlater
      have hrunning := ((balanced_statement s a).running?_eq hb).trans hc
      have hrest := h.statements block (place + 1) rest hlater.orderly hrunning
      exact h.normal ha hc hb hs hlater.orderly hrest
    · exact h.stop ha hc hcompletes hs

end

end HoldsAlong

end Evaluation

end FunctionObjects
