import FunctionObjects.Proofs.Evaluation.Steps

/-!
# Where the steps of an execution are taken

A step of an execution is taken in the context in which the execution began, but for the scope.
Between the scope of this context and that of the step there is one new scope for each block around
the step. It binds nothing, so in the step all names mean what they mean where the execution began
(`AtomicStep.Within`).

The scope of a block is made when the block is entered and is used for nothing else. So two steps
are taken in the same scope if and only if they stand in the same block (`scope?_eq_iff`).
-/

namespace FunctionObjects

/-! ### The scopes of blocks -/

namespace Store

variable {s₀ s₁ s s' : Store} {e o e' : ScopeId} {d d' : Nat}

/-- A scope that is made for a block at the depth `d` inside the scope `e`. Each scope on the way
from there to `e` was not in the store `s₀`, and binds nothing in the store `s`. -/
inductive BlockScope (s₀ s : Store) (e : ScopeId) : (d : Nat) → ScopeId → Prop
  | here : BlockScope s₀ s e 0 e
  | block {d : Nat} {o e' : ScopeId} : BlockScope s₀ s e d o → ¬ s₀.HasScope e' → s.HasScope e' →
      s.scope e' = { outer := some o } → BlockScope s₀ s e (d + 1) e'

namespace BlockScope

theorem trans (h : BlockScope s₀ s e d o) (h' : BlockScope s₀ s o d' e') :
    BlockScope s₀ s e (d + d') e' := by
  induction h' with
  | here => exact h
  | block _ hnew hscope heq ih => exact .block ih hnew hscope heq

/-- What is new is new since earlier times too, and what it is like it is like later on. -/
theorem mono (h : BlockScope s₁ s e d e') (hold : ∀ x, s₀.HasScope x → s₁.HasScope x)
    (hlater : ∀ x, s.HasScope x → s'.HasScope x ∧ s'.scope x = s.scope x) :
    BlockScope s₀ s' e d e' := by
  induction h with
  | here => exact .here
  | block _ hnew hscope heq ih =>
    obtain ⟨hscope', heq'⟩ := hlater _ hscope
    exact .block ih (fun hx => hnew (hold _ hx)) hscope' (heq'.trans heq)

theorem hasScope (h : BlockScope s₀ s e d e') (he : s.HasScope e) : s.HasScope e' := by
  cases h with
  | here => exact he
  | block _ _ hscope => exact hscope

/-- In a block names mean what they mean outside. -/
theorem lookupName (h : BlockScope s₀ s e d e') (hs : s.Nested) (he : s.HasScope e)
    (name : String) : s.lookupName e' name = s.lookupName e name := by
  induction h with
  | here => rfl
  | block ho _ hscope heq ih =>
    have houter : (s.scope _).outer = some _ := congrArg Scope.outer heq
    have hunbound : (s.scope _).binding? name = none := congrArg (Scope.binding? · name) heq
    rw [hs.lookupName_of_outer hscope (ho.hasScope he) houter hunbound, ih]

end BlockScope

end Store

/-! ### The context of a step -/

/-- The step is one of an execution that begins with the agent `a`, while `c` is running, and leaves
the agent `b`. There are `d` blocks around it. -/
structure AtomicStep.Within (t : AtomicStep) (a b : Agent) (c : Context) (d : Nat) : Prop where
  atomic : t.statement.IsAtomic
  before : a.Later t.agent
  after : t.after.Later b
  running : ∃ e, t.agent.running? = some (c.inScope e) ∧
    Store.BlockScope a.store t.agent.store c.scope d e

namespace AtomicStep.Within

open Agent

variable {t : AtomicStep} {a a' b b' : Agent} {c : Context} {d : Nat}

theorem of_later_start (h : t.Within a' b c d) (hlater : a.Later a') : t.Within a b c d := by
  obtain ⟨e, hrunning, hblock⟩ := h.running
  exact ⟨h.atomic, hlater.trans h.before, h.after, e, hrunning,
    hblock.mono (fun _ => hlater.hasScope) fun _ hx => ⟨hx, rfl⟩⟩

theorem of_later_end (h : t.Within a b c d) (hlater : b.Later b') : t.Within a b' c d :=
  ⟨h.atomic, h.before, h.after.trans hlater, h.running⟩

/-- A step in a block is a step of what the block stands in, one block deeper. -/
theorem of_block (ha : a.Orderly) (hc : a.running? = some c)
    (h : t.Within (a.inBlock c) b (c.inScope a.store.nextScope) d) :
    t.Within a b.pop c (d + 1) := by
  have hlater := ha.later_inBlock hc
  obtain ⟨e, hrunning, hblock⟩ := h.running
  obtain ⟨hnew, hscope⟩ := h.before.scopes _ (hasScope_withScope c.scope)
  have hfirst : Store.BlockScope a.store t.agent.store c.scope 1 a.store.nextScope :=
    .block .here (Nat.lt_irrefl _) hnew (hscope.trans (a.scope_inBlock c))
  have hall := hfirst.trans
    (hblock.mono (fun _ => hlater.hasScope) fun _ hx => ⟨hx, rfl⟩)
  rw [Nat.add_comm] at hall
  exact ⟨h.atomic, hlater.trans h.before, h.after.pop, e, hrunning, hall⟩

end AtomicStep.Within

namespace Evaluation

open Agent

variable {a : Agent} {c : Context}

theorem holdsAlong_within :
    HoldsAlong
      (fun block place s a c => ∀ t ∈ stepsOfStatement block place s a,
        ∃ d, t.block.length = d + block.length ∧ t.Within a (finalState (statement s) a) c d)
      (fun block place l a c => ∀ t ∈ stepsOfStatements block place l a,
        ∃ d, t.block.length = d + block.length ∧
          t.Within a (finalState (statements l) a) c d) where
  empty _ _ := by
    rintro t (_ | _)
  atomic {block place s a c} ha hc hs := by
    intro t ht
    rw [stepsOfStatement_of_isAtomic hs, List.mem_singleton] at ht
    subst ht
    exact ⟨0, (Nat.zero_add _).symm, hs, .refl ha, .refl (ha.later_statement s).orderly, c.scope,
      hc, .here⟩
  inside {block place body a c} ha hc h := by
    intro t ht
    rw [stepsOfStatement_block hc] at ht
    obtain ⟨d, hd, hwithin⟩ := h t ht
    rw [finalState_block hc]
    refine ⟨d + 1, ?_, hwithin.of_block ha hc⟩
    rw [hd, List.length_cons]
    omega
  nil _ _ := by
    rintro t (_ | _)
  normal {block place s rest a b c v} ha _ hb hs hbo hrest := by
    intro t ht
    have hlater := ha.later_statement s
    rw [finalState_of_ok hb] at hs hlater
    rw [finalState_cons_of_normal hb]
    rw [stepsOfStatements_cons_of_normal hb, List.mem_append] at ht
    rcases ht with ht | ht
    · obtain ⟨d, hd, hwithin⟩ := hs t ht
      exact ⟨d, hd, hwithin.of_later_end (hbo.later_statements rest)⟩
    · obtain ⟨d, hd, hwithin⟩ := hrest t ht
      exact ⟨d, hd, hwithin.of_later_start hlater⟩
  stop {block place s rest a c} _ _ hnot hs := by
    rw [stepsOfStatements_cons_of_not_completes hnot,
      finalState_of_eq (statements_cons_of_not_completes hnot)]
    exact hs

/-- The depth of a step is the length of the way to its block. -/
theorem within_of_mem_steps (ha : a.Orderly) (hc : a.running? = some c) {l : List Statement}
    {t : AtomicStep} (ht : t ∈ steps l a) :
    t.Within a (finalState (statements l) a) c t.block.length := by
  obtain ⟨d, hd, hwithin⟩ := holdsAlong_within.statements [] 0 l ha hc t ht
  rw [hd]
  exact hwithin

end Evaluation

/-! ### One scope for each block -/

namespace AtomicStep

open Agent

variable {t u : AtomicStep} {a a' b b' : Agent} {c : Context} {block : List Nat} {place : Nat}
  {e : ScopeId} {p q : Nat → Prop}

/-- The scope in which a step is taken. -/
def scope? (t : AtomicStep) : Option ScopeId := t.agent.running?.map Context.scope

/-- The step stands in the block itself and is taken in the scope `e`. Or it stands in a block that
has one of the places `p` there, and its scope was made between the agents `a` and `b`. -/
def Stands (t : AtomicStep) (block : List Nat) (e : ScopeId) (p : Nat → Prop) (a b : Agent) :
    Prop :=
  t.block = block ∧ t.scope? = some e ∨
    ∃ place, p place ∧ (place :: block) <:+ t.block ∧
      ∃ e', t.scope? = some e' ∧ ¬ a.store.HasScope e' ∧ b.store.HasScope e'

namespace Stands

theorem mono (h : t.Stands block e p a' b) (hp : ∀ place, p place → q place) (ha : a.Later a')
    (hb : b.Later b') : t.Stands block e q a b' := by
  rcases h with h | ⟨place, hplace, hblock, e', hscope, hnew, hmade⟩
  · exact .inl h
  · exact .inr ⟨place, hp place hplace, hblock, e', hscope, fun he => hnew (ha.hasScope he),
      hb.hasScope hmade⟩

/-- What stands in a block stands in the block around it, at the place of the block. -/
theorem of_block (ha : a.Orderly) (hc : a.running? = some c) (hb : (a.inBlock c).Later b)
    (h : t.Stands (place :: block) a.store.nextScope p (a.inBlock c) b) :
    t.Stands block c.scope (· = place) a b.pop := by
  rcases h with ⟨hblock, hscope⟩ | ⟨inner, -, hblock, e', hscope, hnew, hmade⟩
  · exact .inr ⟨place, rfl, hblock ▸ List.suffix_rfl, _, hscope, Nat.lt_irrefl _,
      hb.hasScope (hasScope_withScope c.scope)⟩
  · exact .inr ⟨place, rfl, (List.suffix_cons inner _).trans hblock, e', hscope,
      fun he => hnew ((ha.later_inBlock hc).hasScope he), hmade⟩

theorem length_lt {l : List Nat} (h : (place :: block) <:+ l) : block.length < l.length :=
  h.length_le

/-- Steps at different places of a block are in different blocks and scopes, unless they stand both
in the block itself. -/
theorem scope?_eq_iff (he : a.store.HasScope e) (hlater : a.Later a')
    (ht : t.Stands block e p a a') (hu : u.Stands block e q a' b)
    (hpq : ∀ place, p place → ¬ q place) : t.scope? = u.scope? ↔ t.block = u.block := by
  have he' : a'.store.HasScope e := hlater.hasScope he
  rcases ht with ⟨htb, hts⟩ | ⟨i, hi, hti, e₁, hts, hnew₁, hmade₁⟩ <;>
    rcases hu with ⟨hub, hus⟩ | ⟨j, hj, huj, e₂, hus, hnew₂, hmade₂⟩
  · rw [htb, hub, hts, hus]
    exact iff_of_true rfl rfl
  · -- the scope of the second step was not there, and it stands deeper
    refine iff_of_false (fun h => ?_) fun h => ?_
    · rw [hts, hus] at h
      cases h
      exact hnew₂ he'
    · rw [← h, htb] at huj
      exact absurd (length_lt huj) (Nat.lt_irrefl _)
  · refine iff_of_false (fun h => ?_) fun h => ?_
    · rw [hts, hus] at h
      cases h
      exact hnew₁ he
    · rw [h, hub] at hti
      exact absurd (length_lt hti) (Nat.lt_irrefl _)
  · -- both stand deeper: the first scope was there when the second one was made
    refine iff_of_false (fun h => ?_) fun h => ?_
    · rw [hts, hus] at h
      cases h
      exact hnew₂ hmade₁
    · rw [h] at hti
      have hij : i :: block = j :: block :=
        (List.suffix_of_suffix_length_le hti huj (by simp)).eq_of_length (by simp)
      cases hij
      exact hpq i hi hj

end Stands

end AtomicStep

namespace Evaluation

open Agent AtomicStep

variable {a : Agent} {c : Context} {l : List Statement} {t u : AtomicStep}

theorem holdsAlong_stands :
    HoldsAlong
      (fun block place s a c => ∀ t ∈ stepsOfStatement block place s a,
        t.Stands block c.scope (· = place) a (finalState (statement s) a))
      (fun block place l a c => ∀ t ∈ stepsOfStatements block place l a,
        t.Stands block c.scope (place ≤ ·) a (finalState (statements l) a)) where
  empty _ _ := by
    rintro t (_ | _)
  atomic {block place s a c} _ hc hs := by
    intro t ht
    rw [stepsOfStatement_of_isAtomic hs, List.mem_singleton] at ht
    subst ht
    exact .inl ⟨rfl, congrArg (Option.map Context.scope) hc⟩
  inside {block place body a c} ha hc h := by
    intro t ht
    rw [stepsOfStatement_block hc] at ht
    rw [finalState_block hc]
    exact (h t ht).of_block ha hc ((ha.later_inBlock hc).orderly.later_statements body)
  nil _ _ := by
    rintro t (_ | _)
  normal {block place s rest a b c v} ha _ hb hs hbo hrest := by
    intro t ht
    have hlater := ha.later_statement s
    rw [finalState_of_ok hb] at hs hlater
    rw [finalState_cons_of_normal hb]
    rw [stepsOfStatements_cons_of_normal hb, List.mem_append] at ht
    rcases ht with ht | ht
    · exact (hs t ht).mono (fun _ h => h.ge) (.refl ha) (hbo.later_statements rest)
    · exact (hrest t ht).mono (fun _ h => Nat.le_of_succ_le h) hlater
        (.refl (hbo.later_statements rest).orderly)
  stop {block place s rest a c} ha _ hnot hs := by
    intro t ht
    rw [stepsOfStatements_cons_of_not_completes hnot] at ht
    rw [finalState_of_eq (statements_cons_of_not_completes hnot)]
    exact (hs t ht).mono (fun _ h => h.ge) (.refl ha) (.refl (ha.later_statement s).orderly)

/-- Two of the steps are taken in the same scope if they stand in the same block, and only then. -/
def OneScopeEach (ts : List AtomicStep) : Prop :=
  ∀ t ∈ ts, ∀ u ∈ ts, t.scope? = u.scope? ↔ t.block = u.block

theorem holdsAlong_oneScopeEach :
    HoldsAlong
      (fun block place s a _ => OneScopeEach (stepsOfStatement block place s a))
      (fun block place l a _ => OneScopeEach (stepsOfStatements block place l a)) where
  empty _ _ := by
    rintro t (_ | _)
  atomic {block place s a c} _ _ hs := by
    intro t ht u hu
    rw [stepsOfStatement_of_isAtomic hs, List.mem_singleton] at ht hu
    rw [ht, hu]
    exact iff_of_true rfl rfl
  inside {block place body a c} _ hc h := by
    rw [stepsOfStatement_block hc]
    exact h
  nil _ _ := by
    rintro t (_ | _)
  normal {block place s rest a b c v} ha hc hb hs hbo hrest := by
    have hlater := ha.later_statement s
    have hstands := holdsAlong_stands.statement block place s ha hc
    rw [finalState_of_ok hb] at hlater hstands
    have hc' := ((balanced_statement s a).running?_eq hb).trans hc
    have hstands' := holdsAlong_stands.statements block (place + 1) rest hbo hc'
    -- one step of the statement and one of the rest
    have hboth : ∀ t ∈ stepsOfStatement block place s a,
        ∀ u ∈ stepsOfStatements block (place + 1) rest b,
          t.scope? = u.scope? ↔ t.block = u.block := by
      intro t ht u hu
      refine (hstands t ht).scope?_eq_iff (ha.hasScope hc) hlater (hstands' u hu) ?_
      rintro _ rfl
      exact Nat.not_succ_le_self _
    intro t ht u hu
    rw [stepsOfStatements_cons_of_normal hb, List.mem_append] at ht hu
    rcases ht with ht | ht <;> rcases hu with hu | hu
    · exact hs t ht u hu
    · exact hboth t ht u hu
    · rw [eq_comm, @eq_comm _ t.block]
      exact hboth u hu t ht
    · exact hrest t ht u hu
  stop {block place s rest a c} _ _ hnot hs := by
    rw [stepsOfStatements_cons_of_not_completes hnot]
    exact hs

theorem scope?_eq_iff (ha : a.Orderly) (hc : a.running? = some c) (ht : t ∈ steps l a)
    (hu : u ∈ steps l a) : t.scope? = u.scope? ↔ t.block = u.block :=
  holdsAlong_oneScopeEach.statements [] 0 l ha hc t ht u hu

end Evaluation

end FunctionObjects
