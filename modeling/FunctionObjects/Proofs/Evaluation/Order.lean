import FunctionObjects.Proofs.Evaluation.Steps

/-!
# The order of execution

Statements are executed from left to right, until one of them fails or is a `return`. This is said
in two ways. The steps of an execution are the leaves of the tree, one after the other, and the
first that does not go through is the last one and decides how the execution ends (`InOrder`). And
what stands behind such a step might as well be anything else, be it in the same block or in one of
the lists around it (`statementsAfter_of_goesOn`).
-/

namespace FunctionObjects

open Store

/-! ### Executions consist of their steps -/

namespace Store.NewScopesOnly

variable {s s' s'' : Store}

theorem refl (s : Store) : s.NewScopesOnly s :=
  ⟨rfl, rfl, fun _ he => ⟨he, rfl⟩, rfl, rfl, rfl, rfl⟩

theorem trans (h : s.NewScopesOnly s') (h' : s'.NewScopesOnly s'') : s.NewScopesOnly s'' where
  heaps := h'.heaps.trans h.heaps
  loose := h'.loose.trans h.loose
  scopes e he := by
    obtain ⟨he', hscope⟩ := h.scopes e he
    obtain ⟨he'', hscope'⟩ := h'.scopes e he'
    exact ⟨he'', hscope'.trans hscope⟩
  privateScopes := h'.privateScopes.trans h.privateScopes
  privateNames := h'.privateNames.trans h.privateNames
  realms := h'.realms.trans h.realms
  functions := h'.functions.trans h.functions

theorem pushScope (s : Store) (scope : Scope) : s.NewScopesOnly (s.pushScope scope) :=
  ⟨rfl, rfl, fun _ he => scope_pushScope_of_hasScope he scope, rfl, rfl, rfl, rfl⟩

end Store.NewScopesOnly

/-- Executing the statements of a list one after the other, from a store on, takes these steps and
ends in this way. Between the steps nothing happens but that scopes are made. -/
inductive InOrder : Store → List Statement → List AtomicStep → Ending → Prop
  /-- There is no statement left. -/
  | done {s s' : Store} : s.NewScopesOnly s' → InOrder s [] [] ⟨.ok none, s'⟩
  /-- The first statement goes through, and the others follow. -/
  | step {s : Store} {t : AtomicStep} {atoms : List Statement} {ts : List AtomicStep} {e : Ending} :
      s.NewScopesOnly t.agent.store → t.Completes → InOrder t.ending.store atoms ts e →
      InOrder s (t.statement :: atoms) (t :: ts) e
  /-- The first statement is a failure or a `return`. -/
  | stop {s : Store} {t : AtomicStep} {atoms : List Statement} :
      s.NewScopesOnly t.agent.store → ¬ t.Completes → InOrder s (t.statement :: atoms) [t] t.ending

namespace InOrder

variable {s s' : Store} {atoms atoms' : List Statement} {t : AtomicStep} {ts ts' : List AtomicStep}
  {e e' : Ending}

theorem after_newScopes (hs : s.NewScopesOnly s') (h : InOrder s' atoms ts e) :
    InOrder s atoms ts e := by
  cases h with
  | done h => exact .done (hs.trans h)
  | step h hcompletes hrest => exact .step (hs.trans h) hcompletes hrest
  | stop h hnot => exact .stop (hs.trans h) hnot

/-- What follows a list is executed after it if nothing has stopped its execution. -/
theorem append (h : InOrder s atoms ts e) (he : e.outcome = .ok none)
    (h' : InOrder e.store atoms' ts' e') : InOrder s (atoms ++ atoms') (ts ++ ts') e' := by
  induction h with
  | done hs => exact h'.after_newScopes hs
  | step hs hcompletes _ ih => exact .step hs hcompletes (ih he h')
  | stop hs hnot => exact absurd he hnot

theorem append_of_stopped (h : InOrder s atoms ts e) (he : e.outcome ≠ .ok none)
    (atoms' : List Statement) : InOrder s (atoms ++ atoms') ts e := by
  induction h with
  | done => exact absurd rfl he
  | step hs hcompletes _ ih => exact .step hs hcompletes (ih he)
  | stop hs hnot => exact .stop hs hnot

/-- A step that does not go through is the last one. -/
theorem ending_of_not_completes (h : InOrder s atoms ts e) (ht : t ∈ ts) (hnot : ¬ t.Completes) :
    e = t.ending := by
  induction h with
  | done => cases ht
  | step _ hcompletes _ ih =>
    rcases List.mem_cons.1 ht with rfl | ht
    · exact absurd hcompletes hnot
    · exact ih ht
  | stop => rw [List.mem_singleton.1 ht]

/-- There is nothing after a step that does not go through. -/
theorem eq_nil_of_not_completes {before after : List AtomicStep}
    (h : InOrder s atoms (before ++ t :: after) e) (hnot : ¬ t.Completes) : after = [] := by
  induction before generalizing s atoms with
  | nil =>
    cases h with
    | step _ hcompletes _ => exact absurd hcompletes hnot
    | stop => rfl
  | cons u before ih =>
    generalize hts : u :: before ++ t :: after = ts at h
    cases h with
    | done => cases hts
    | step _ _ hrest =>
      cases hts
      exact ih hrest
    | stop =>
      -- a single step is not followed by another one
      have hlength := congrArg List.length hts
      simp at hlength

/-- The execution is stopped by one of its steps or not at all. -/
theorem completes_or_exists (h : InOrder s atoms ts e) :
    e.outcome = .ok none ∨ ∃ t ∈ ts, ¬ t.Completes := by
  induction h with
  | done => exact .inl rfl
  | step _ _ _ ih => exact ih.imp id fun ⟨t, ht, hnot⟩ => ⟨t, List.mem_cons_of_mem _ ht, hnot⟩
  | stop _ hnot => exact .inr ⟨_, List.mem_singleton_self _, hnot⟩

/-- If nothing has stopped the execution, all statements were executed. -/
theorem statements_of_completes (h : InOrder s atoms ts e) (he : e.outcome = .ok none) :
    ts.map AtomicStep.statement = atoms := by
  induction h with
  | done => rfl
  | step _ _ _ ih => rw [List.map_cons, ih he]
  | stop _ hnot => exact absurd he hnot

end InOrder

namespace Evaluation

open Agent Statement

variable {a : Agent} {c : Context}

theorem holdsAlong_inOrder :
    HoldsAlong
      (fun block place s a _ => InOrder a.store s.flatten (stepsOfStatement block place s a)
        (ending (statement s) a))
      (fun block place l a _ => InOrder a.store (flattenAll l) (stepsOfStatements block place l a)
        (ending (statements l) a)) where
  empty _ _ := .done (.refl _)
  atomic {block place s a c} _ _ hs := by
    rw [hs.flatten, stepsOfStatement_of_isAtomic hs]
    let t : AtomicStep := ⟨block, s, a⟩
    by_cases hcompletes : Completes (statement s) a
    · have hrest : InOrder t.ending.store [] [] (ending (statement s) a) := by
        obtain ⟨v, b, hb⟩ := completes_iff.1 hcompletes
        rw [AtomicStep.ending, ending_of_normal hb]
        exact .done (.refl _)
      exact .step (t := t) (.refl _) hcompletes hrest
    · exact .stop (t := t) (.refl _) hcompletes
  inside {block place body a c} _ hc h := by
    rw [flatten, stepsOfStatement_block hc, ending_block hc]
    exact h.after_newScopes (.pushScope _ _)
  nil _ _ := .done (.refl _)
  normal {block place s rest a b c v} _ _ hb hs _ hrest := by
    rw [ending_of_normal hb] at hs
    rw [flattenAll, stepsOfStatements_cons_of_normal hb, ending_cons_of_normal hb]
    exact hs.append rfl hrest
  stop {block place s rest a c} _ _ hnot hs := by
    rw [flattenAll, stepsOfStatements_cons_of_not_completes hnot,
      ending_of_eq (statements_cons_of_not_completes hnot)]
    exact hs.append_of_stopped hnot _

/-- An execution consists of its steps. -/
theorem inOrder_statements (ha : a.Orderly) (hc : a.running? = some c) (l : List Statement) :
    InOrder a.store (flattenAll l) (steps l a) (ending (statements l) a) :=
  holdsAlong_inOrder.statements [] 0 l ha hc

end Evaluation

/-! ### What is not executed -/

/-- The second list begins like the first and goes on where that one ends, be it in the same list or
in a block at the end of it, and also where the lists around that block end. -/
inductive GoesOn : List Statement → List Statement → Prop
  | here (rest : List Statement) : GoesOn [] rest
  | next {l l' : List Statement} (s : Statement) : GoesOn l l' → GoesOn (s :: l) (s :: l')
  | inside {l l' : List Statement} (rest : List Statement) : GoesOn l l' →
      GoesOn [.block l] (.block l' :: rest)

theorem GoesOn.append {l l' : List Statement} (h : GoesOn l l') (rest : List Statement) :
    GoesOn l (l' ++ rest) := by
  induction h with
  | here => exact .here _
  | next s _ ih => exact .next s ih
  | inside _ h => exact .inside _ h

namespace Evaluation

open Agent Statement

variable {a : Agent} {c : Context} {l l' : List Statement}

/-- After a failure or a `return` it does not matter what follows. -/
theorem statementsAfter_of_goesOn (h : GoesOn l l') {last : Value} (hc : a.running? = some c)
    (hnot : ¬ Completes (statementsAfter last l) a) :
    statementsAfter last l' a = statementsAfter last l a := by
  induction h generalizing a c last with
  | here => exact absurd rfl hnot
  | @next l l' s h ih =>
    by_cases hs : Completes (statement s) a
    · obtain ⟨v, b, hb⟩ := completes_iff.1 hs
      have hrest : ¬ Completes (statementsAfter v l) b := by
        rwa [Completes, ending_of_eq (statementsAfter_cons_of_normal hb)] at hnot
      rw [statementsAfter_cons_of_normal hb, statementsAfter_cons_of_normal hb]
      exact ih (((balanced_statement s a).running?_eq hb).trans hc) hrest
    · rw [statementsAfter_cons_of_not_completes hs, statementsAfter_cons_of_not_completes hs]
  | @inside l l' rest h ih =>
    -- nothing follows the shorter block, so it is the block that does not go through
    have hblock : ¬ Completes (statement (.block l)) a := by
      rwa [Completes, ending_statementsAfter, ending_singleton] at hnot
    have hinside : ¬ Completes (statements l) (a.inBlock c) := by
      rwa [Completes, ending_block hc] at hblock
    have heq : statement (.block l') a = statement (.block l) a := by
      rw [statement_block hc, statement_block hc, leaving, leaving]
      rw [show statements l' (a.inBlock c) = statements l (a.inBlock c) from
        ih (a.running?_inBlock c) hinside]
    have hblock' : ¬ Completes (statement (.block l')) a := by
      rwa [Completes, ending_of_eq heq]
    rw [statementsAfter_cons_of_not_completes hblock, statementsAfter_cons_of_not_completes hblock',
      heq]

/-- Where an execution is stopped, the tree can be cut off. -/
theorem holdsAlong_exists_goesOn :
    HoldsAlong
      (fun block place s a _ => ¬ Completes (statement s) a → ∃ l₀, GoesOn l₀ [s] ∧
        flattenAll l₀ = (stepsOfStatement block place s a).map AtomicStep.statement ∧
        ¬ Completes (statements l₀) a)
      (fun block place l a _ => ¬ Completes (statements l) a → ∃ l₀, GoesOn l₀ l ∧
        flattenAll l₀ = (stepsOfStatements block place l a).map AtomicStep.statement ∧
        ¬ Completes (statements l₀) a) where
  empty _ _ hnot := absurd rfl hnot
  atomic {block place s a c} _ _ hs hnot := by
    refine ⟨[s], .next s (.here []), ?_, ?_⟩
    · rw [flattenAll_singleton, hs.flatten, stepsOfStatement_of_isAtomic hs]
      rfl
    · rwa [Completes, ending_singleton]
  inside {block place body a c} _ hc h hnot := by
    rw [Completes, ending_block hc] at hnot
    obtain ⟨l₀, hgoes, hflat, hnot₀⟩ := h hnot
    refine ⟨[.block l₀], .inside [] hgoes, ?_, ?_⟩
    · rw [flattenAll_singleton, flatten, hflat, stepsOfStatement_block hc]
    · rwa [Completes, ending_singleton, ending_block hc]
  nil _ _ hnot := absurd rfl hnot
  normal {block place s rest a b c v} ha hc hb _ _ hrest hnot := by
    rw [Completes, ending_cons_of_normal hb] at hnot
    obtain ⟨l₀, hgoes, hflat, hnot₀⟩ := hrest hnot
    have horder := holdsAlong_inOrder.statement block place s ha hc
    have hall := horder.statements_of_completes (completes_iff.2 ⟨v, b, hb⟩)
    refine ⟨s :: l₀, .next s hgoes, ?_, ?_⟩
    · rw [flattenAll, hflat, stepsOfStatements_cons_of_normal hb, List.map_append, hall]
    · rwa [Completes, ending_cons_of_normal hb]
  stop {block place s rest a c} _ _ hnot hs _ := by
    obtain ⟨l₀, hgoes, hflat, hnot₀⟩ := hs hnot
    rw [stepsOfStatements_cons_of_not_completes hnot]
    exact ⟨l₀, hgoes.append rest, hflat, hnot₀⟩

/-- **Statements are executed in order.** The steps of an execution are statements of the tree from
left to right, and it ends after the last of them or with the first failure or `return`. In this
case the executed statements are the beginning of the tree, and whatever comes after it, in the same
block or further out, the execution is the same. -/
structure StrictlyInOrder (l : List Statement) (a : Agent) : Prop where
  inOrder : InOrder a.store (flattenAll l) (steps l a) (ending (statements l) a)
  stopped : ¬ Completes (statements l) a → ∃ l₀, GoesOn l₀ l ∧
    flattenAll l₀ = (steps l a).map AtomicStep.statement ∧
    ∀ l', GoesOn l₀ l' → statements l' a = statements l a

theorem strictlyInOrder (ha : a.Orderly) (hc : a.running? = some c) (l : List Statement) :
    StrictlyInOrder l a := by
  refine ⟨inOrder_statements ha hc l, fun hnot => ?_⟩
  obtain ⟨l₀, hgoes, hflat, hnot₀⟩ := holdsAlong_exists_goesOn.statements [] 0 l ha hc hnot
  have hsame : ∀ l', GoesOn l₀ l' → statements l' a = statements l₀ a :=
    fun l' h => statementsAfter_of_goesOn h hc hnot₀
  exact ⟨l₀, hgoes, hflat, fun l' h => (hsame l' h).trans (hsame l hgoes).symm⟩

end Evaluation

end FunctionObjects
