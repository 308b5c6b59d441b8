import FunctionObjects.Syntax.Definition
import Mathlib.Data.List.TakeWhile

/-!
# What makes a body strict

A directive is a statement that is a string literal and nothing else. The directives of a body are
those of the longest run of them at its beginning, its prologue. A literal further down is no
directive of the body, and neither are the directives of a block.

Whether the body is strict depends on its prologue alone, and there only on whether "use strict" is
among the directives (`isStrictBody_iff_mem_prologue`). So it does not matter in which order they
stand, and nothing behind the prologue matters.
-/

namespace FunctionObjects

/-! ### Directives -/

/-- The statement that is the string literal `text`. -/
def Statement.directive (text : String) : Statement := .expression (.literal (.string text))

/-- Whether a statement is a string literal and nothing else. -/
def Statement.isDirective : Statement → Bool
  | .expression (.literal (.string _)) => true
  | _ => false

theorem Statement.directive_inj {text text' : String} :
    directive text = directive text' ↔ text = text' := by
  simp [directive]

theorem Statement.isDirective_iff {st : Statement} :
    st.isDirective = true ↔ ∃ text, st = .directive text := by
  constructor
  · fun_cases isDirective st with
    | case1 text => exact fun _ => ⟨text, rfl⟩
    | case2 => exact fun h => nomatch h
  · rintro ⟨text, rfl⟩
    rfl

/-- The directives at the beginning of a body. -/
def prologue (body : List Statement) : List Statement := body.takeWhile Statement.isDirective

/-- A run of directives at the beginning of a body; no such run is longer. -/
structure IsPrologue (run body : List Statement) : Prop where
  begins : run <+: body
  directives : ∀ st ∈ run, st.isDirective = true
  longest : ∀ run', run' <+: body → (∀ st ∈ run', st.isDirective = true) →
    run'.length ≤ run.length

variable {body run rest : List Statement}

/-- What is behind a run of directives adds its own prologue to it. -/
theorem prologue_append (h : ∀ st ∈ run, st.isDirective = true) :
    prologue (run ++ rest) = run ++ prologue rest :=
  List.takeWhile_append_of_pos h

theorem prologue_eq_nil (h : ∀ st ∈ rest.head?, st.isDirective = false) : prologue rest = [] := by
  cases rest with
  | nil => rfl
  | cons st rest => exact List.takeWhile_cons_of_neg (by simp [h st rfl])

theorem isDirective_of_mem_prologue {st : Statement} (h : st ∈ prologue body) :
    st.isDirective = true :=
  List.mem_takeWhile_imp h

theorem prologue_isPrefix (body : List Statement) : prologue body <+: body :=
  List.takeWhile_prefix _

/-- Every run of directives at the beginning of a body is part of its prologue. -/
theorem isPrefix_prologue (h : run <+: body) (hrun : ∀ st ∈ run, st.isDirective = true) :
    run <+: prologue body := by
  obtain ⟨rest, rfl⟩ := h
  exact ⟨prologue rest, (prologue_append hrun).symm⟩

/-- A body has one prologue. -/
theorem isPrologue_iff : IsPrologue run body ↔ run = prologue body := by
  constructor
  · intro h
    have hlongest := h.longest _ (prologue_isPrefix body) fun _ => isDirective_of_mem_prologue
    exact (isPrefix_prologue h.begins h.directives).eq_of_length_le hlongest
  · rintro rfl
    exact ⟨prologue_isPrefix body, fun _ => isDirective_of_mem_prologue,
      fun run hrun hdirectives => (isPrefix_prologue hrun hdirectives).length_le⟩

/-- A statement is in the prologue if it is a directive and stands behind directives only. -/
theorem mem_prologue_iff {st : Statement} :
    st ∈ prologue body ↔ st.isDirective = true ∧
      ∃ i : Nat, body[i]? = some st ∧ ∀ j < i, ∃ text, body[j]? = some (.directive text) := by
  have hbody := List.prefix_iff_getElem?.1 (prologue_isPrefix body)
  constructor
  · intro h
    obtain ⟨i, hi, rfl⟩ := List.mem_iff_getElem.1 h
    refine ⟨isDirective_of_mem_prologue h, i, hbody i hi, fun j hj => ?_⟩
    have hj := hj.trans hi
    obtain ⟨text, htext⟩ := Statement.isDirective_iff.1
      (isDirective_of_mem_prologue (List.getElem_mem hj))
    exact ⟨text, htext ▸ hbody j hj⟩
  · rintro ⟨hst, i, hi, hbefore⟩
    obtain ⟨hlt, rfl⟩ := List.getElem?_eq_some_iff.1 hi
    have hrun : ∀ st ∈ body.take (i + 1), st.isDirective = true := by
      intro st hmem
      obtain ⟨j, hj, rfl⟩ := List.mem_take_iff_getElem.1 hmem
      rcases Nat.lt_or_eq_of_le (Nat.le_of_lt_succ (Nat.lt_min.1 hj).1) with hji | rfl
      · obtain ⟨text, htext⟩ := hbefore j hji
        exact Statement.isDirective_iff.2 ⟨text, (List.getElem?_eq_some_iff.1 htext).2⟩
      · exact hst
    -- the run up to this position is part of the prologue, and the statement is its last
    have hmem : body[i] ∈ body.take (i + 1) := List.mem_take_iff_getElem.2 ⟨i, by omega, rfl⟩
    exact (isPrefix_prologue (List.take_prefix _ _) hrun).subset hmem

/-! ### Strict bodies -/

/-- A body is strict if "use strict" is one of its directives, and not otherwise. -/
theorem isStrictBody_iff_mem_prologue :
    isStrictBody body = true ↔ .directive "use strict" ∈ prologue body := by
  fun_induction isStrictBody body with
  | case1 text rest ih =>
    show _ ↔ _ ∈ Statement.directive text :: prologue rest
    rw [Bool.or_eq_true, beq_iff_eq, ih, List.mem_cons, Statement.directive_inj, eq_comm]
  | case2 body hbody =>
    have hnil : prologue body = [] := by
      apply prologue_eq_nil
      intro st hst
      obtain ⟨rest, rfl⟩ := List.head?_eq_some_iff.1 hst
      rw [← Bool.not_eq_true, Statement.isDirective_iff]
      rintro ⟨text, rfl⟩
      exact hbody text rest rfl
    simp [hnil]

namespace FunctionDefinition

/-- A definition is strict if the code around it is or if its body is. -/
theorem strict_inCode_ofParts (site : Nat) (name : Option String) (params : List Pattern)
    (body : List Statement) (species : Species) (enclosing : Bool) :
    ((ofParts site name params body species).inCode enclosing).strict = true ↔
      enclosing = true ∨ .directive "use strict" ∈ prologue body := by
  show (isStrictBody body || enclosing) = true ↔ _
  rw [Bool.or_eq_true, or_comm, isStrictBody_iff_mem_prologue]

/-- **What makes a definition strict.** A definition is strict if the code around it is, or if at
some position of its body stands the directive "use strict" and before it stand directives only; and
not otherwise. A body has one longest run of directives at its beginning. Definitions whose bodies
have the same directives there, in whatever order, agree in whether they are strict, and what else
they are made of does not matter. So the directives may be put in another order, and anything may
stand behind them that does not go on with a directive: a block, say, with directives of its own. -/
theorem strict_by_directives (site : Nat) (name : Option String) (params : List Pattern)
    (body : List Statement) (species : Species) (enclosing : Bool) :
    let d := (ofParts site name params body species).inCode enclosing
    (d.strict = true ↔ enclosing = true ∨ ∃ i : Nat,
      body[i]? = some (.expression (.literal (.string "use strict"))) ∧
        ∀ j < i, ∃ text, body[j]? = some (.expression (.literal (.string text)))) ∧
    (∀ run, IsPrologue run body ↔ run = prologue body) ∧
    (∀ site' name' params' body' species', (prologue body').Perm (prologue body) →
      ((ofParts site' name' params' body' species').inCode enclosing).strict = d.strict) ∧
    ∀ run rest, run.Perm (prologue body) → (∀ st ∈ rest.head?, st.isDirective = false) →
      prologue (run ++ rest) = run ∧
        ((ofParts site name params (run ++ rest) species).inCode enclosing).strict = d.strict := by
  intro d
  have hperm : ∀ site' name' params' body' species', (prologue body').Perm (prologue body) →
      ((ofParts site' name' params' body' species').inCode enclosing).strict = d.strict := by
    intro site' name' params' body' species' hbody
    -- only membership in the prologue is left, which knows no order
    rw [Bool.eq_iff_iff, strict_inCode_ofParts, strict_inCode_ofParts, hbody.mem_iff]
  refine ⟨?_, fun run => isPrologue_iff, hperm, fun run rest hrun hrest => ?_⟩
  · rw [strict_inCode_ofParts, mem_prologue_iff]
    exact or_congr_right (and_iff_right rfl)
  · have hprologue : prologue (run ++ rest) = run := by
      rw [prologue_append fun st hst => isDirective_of_mem_prologue (hrun.mem_iff.1 hst),
        prologue_eq_nil hrest, List.append_nil]
    exact ⟨hprologue, hperm site name params (run ++ rest) species (by rwa [hprologue])⟩

/-- "use strict" as the second directive and as the first, with a block behind the directives, and
"use strict" in a block and behind it only. -/
theorem strict_by_directives_block :
    let asm : Statement := .directive "use asm"
    let strict : Statement := .directive "use strict"
    let d (body : List Statement) := (ofParts 0 none [] body .ordinary).inCode false
    (d [asm, strict]).strict = true ∧
      (d [strict, asm, .block [asm], asm]).strict = true ∧
      (d [asm, .block [strict], strict]).strict = false := by
  intro asm strict d
  have hblock : ∀ inner rest, ∀ st ∈ (Statement.block inner :: rest).head?,
      st.isDirective = false := by
    rintro inner rest _ ⟨⟩
    rfl
  obtain ⟨hstrict, -, -, hother⟩ := strict_by_directives 0 none [] [asm, strict] .ordinary false
  have hsecond : (d [asm, strict]).strict = true := by
    refine hstrict.2 (.inr ⟨1, rfl, fun j hj => ⟨"use asm", ?_⟩⟩)
    rw [Nat.lt_one_iff.1 hj]
    rfl
  refine ⟨hsecond, ?_, ?_⟩
  · exact (hother [strict, asm] [.block [asm], asm] (.swap asm strict []) (hblock _ _)).2.trans
      hsecond
  · obtain ⟨-, -, -, hother⟩ := strict_by_directives 0 none [] [asm] .ordinary false
    exact (hother [asm] [.block [strict], strict] (.refl _) (hblock _ _)).2.trans rfl

end FunctionDefinition

end FunctionObjects
