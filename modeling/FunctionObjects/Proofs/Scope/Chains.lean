import FunctionObjects.Proofs.Scope.Operations
import FunctionObjects.Scope.Resolution
import Mathlib.Data.List.Find

/-!
# Resolution along the scopes

A scope is made inside one that exists, and where it lies never changes. So the numbers of the
scopes fall on the way outwards (`Nested`), the way ends, and it is no longer than there are
scopes. The bound that the resolution of names is given is therefore never felt: a name means what
the first scope on the way that binds it makes of it.

It follows on what the meaning of a name depends, and on what it does not: a scope that binds the
name hides all further out, a scope that does not bind it may be skipped, and scopes that are not
on the way do not matter.
-/

namespace FunctionObjects.Store

variable {made : FunctionSlots → Prop} {flags : Prop} {s s' : Store} {e o : ScopeId}
  {name : String} {b : Binding}

/-! ### The way outwards -/

/-- Every scope lies inside an older one, or inside none. -/
def Nested (s : Store) : Prop := ∀ e o, s.outer? e = some o → o.index < e.index

theorem nested_empty : Nested {} := by
  rintro e o ⟨⟩

theorem Nested.change (hs : s.Nested) (hc : Change made flags s s') : s'.Nested := by
  intro e o ho
  rw [outer?] at ho
  cases hc.scope e with
  | same h =>
    rw [h] at ho
    exact hs e o ho
  | new he houter h =>
    rw [h] at ho
    subst he
    exact houter o ho
  | operated h =>
    rw [Scope.Operation.outer_of_apply h] at ho
    exact hs e o ho

theorem Nested.changes (hs : s.Nested) (h : Changes made flags s s') : s'.Nested := by
  induction h with
  | refl => exact hs
  | tail _ hc ih => exact ih.change hc

theorem Reachable.nested (hs : s.Reachable) : s.Nested :=
  nested_empty.changes hs.changes

/-- The way outwards ends, and no scope on it is younger than the first. -/
theorem Nested.exists_chain (hs : s.Nested) (e : ScopeId) :
    ∃ l, Chain s.outer? e l ∧ l.length ≤ e.index + 1 ∧ ∀ e' ∈ l, e'.index ≤ e.index :=
  Chain.exists_of_index_lt hs e

/-! ### The meaning of a name -/

/-- The scope that decides is the first on the way that binds the name. -/
theorem Nested.findScope_eq (hs : s.Nested) (he : s.HasScope e) {l : List ScopeId}
    (hl : Chain s.outer? e l) (name : String) :
    s.findScope e name = l.find? fun e => (s.scope e).binds name := by
  obtain ⟨l', hl', hlength, -⟩ := hs.exists_chain e
  cases hl.unique hl'
  rw [← List.findSome?_guard]
  exact firstAlong_eq_findSome? hl (hlength.trans he)

/-- A name means what the scope itself makes of it, if it binds the name. -/
theorem Nested.lookupName_of_binding? (hs : s.Nested)
    (hb : (s.scope e).binding? name = some b) :
    s.lookupName e name = (s.scope e).read name := by
  obtain ⟨l, hl, -⟩ := hs.exists_chain e
  have hfind : s.findScope e name = some e := by
    rw [hs.findScope_eq (hasScope_of_binding? hb) hl]
    cases hl <;> simp [Scope.binds_of_binding? hb]
  rw [lookupName, hfind]

/-- A name that the scope itself does not bind means what it means outside. -/
theorem Nested.lookupName_of_outer (hs : s.Nested) (he : s.HasScope e) (ho : s.HasScope o)
    (houter : (s.scope e).outer = some o) (hb : (s.scope e).binding? name = none) :
    s.lookupName e name = s.lookupName o name := by
  obtain ⟨l, hl, -⟩ := hs.exists_chain o
  have hbinds := Scope.binds_eq_false_iff.2 hb
  have hfind : s.findScope e name = s.findScope o name := by
    rw [hs.findScope_eq he (.link houter hl), hs.findScope_eq ho hl]
    simp [hbinds]
  rw [lookupName, lookupName, hfind]

/-- What happens outside the scopes that there are does not change what a name means in them. -/
theorem Nested.lookupName_congr (hs : s.Nested) (hs' : s'.Nested)
    (hsame : ∀ e, s.HasScope e → s'.HasScope e ∧ s'.scope e = s.scope e) (he : s.HasScope e)
    (name : String) : s'.lookupName e name = s.lookupName e name := by
  obtain ⟨l, hl, -, hindex⟩ := hs.exists_chain e
  have hmem : ∀ e' ∈ l, s'.scope e' = s.scope e' := by
    intro e' he'
    exact (hsame e' (lt_of_le_of_lt (hindex e' he') he)).2
  have hl' : Chain s'.outer? e l := by
    apply hl.congr
    intro e' he'
    rw [outer?, hmem e' he', outer?]
  have hfind : s'.findScope e name = s.findScope e name := by
    rw [hs'.findScope_eq (hsame e he).1 hl', hs.findScope_eq he hl]
    apply List.find?_congr
    intro e' he'
    rw [hmem e' he']
  rw [lookupName, lookupName, hfind]
  cases hfound : s.findScope e name with
  | none => rfl
  | some found =>
    -- the scope that decides is one of those on the way
    rw [hs.findScope_eq he hl] at hfound
    exact congrArg (Scope.read · name) (hmem found (List.mem_of_find?_eq_some hfound))

end FunctionObjects.Store
