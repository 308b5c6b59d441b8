import FunctionObjects.Proofs.Evaluation.Bodies
import FunctionObjects.Proofs.Scope.Visibility

/-!
# What a name in code means

A name in code means what the innermost scope that binds it makes of it. `BindsFirst` says of a list
of scopes which one that is: those before it do not bind the name. The scopes around a scope are
such a list, because there is no circle among them.

A binding that waits for its value decides like any other. The name then has no value, although a
scope further out may bind it to one. And that a name means nothing at all is said only if no scope
on the whole way binds it.
-/

namespace FunctionObjects

namespace Scope

variable {s : Scope} {name : String}

/-- A scope that binds a name does not take it for one that is bound nowhere. -/
theorem read_ne_unresolvable (hb : s.binds name = true) (name' : String) :
    s.read name ≠ .error (.unresolvableReference name') := by
  obtain ⟨b, hb⟩ := Option.isSome_iff_exists.1 hb
  replace hb : s.binding? name = some b := hb
  cases hi : b.initialized with
  | false => simp [(waits_of_not_initialized hb hi).read]
  | true => simp [read_of_initialized hb hi]

/-- A binding without a value waits for it. -/
theorem waits_of_binds (hb : s.binds name = true) (hi : s.isInitialized name = false) :
    s.Waits name := by
  obtain ⟨b, hb⟩ := Option.isSome_iff_exists.1 hb
  replace hb : s.binding? name = some b := hb
  exact waits_of_not_initialized hb (by simpa [isInitialized, hb] using hi)

end Scope

namespace Store

variable {s : Store} {e found : ScopeId} {name : String} {l : List ScopeId}

/-- Of a list of scopes, `found` is the first that binds the name. -/
def BindsFirst (s : Store) (name : String) (l : List ScopeId) (found : ScopeId) : Prop :=
  ∃ inner outer, l = inner ++ found :: outer ∧ (s.scope found).binds name = true ∧
    ∀ e ∈ inner, (s.scope e).binds name = false

namespace Nested

/-- There is no circle of scopes. -/
theorem wellFounded (hs : s.Nested) : WellFounded fun o e => s.outer? e = some o := by
  refine ⟨fun e => ?_⟩
  obtain ⟨l, hl, -⟩ := hs.exists_chain e
  exact hl.acc

theorem findScope_eq_some_iff (hs : s.Nested) (he : s.HasScope e) (hl : Chain s.outer? e l) :
    s.findScope e name = some found ↔ s.BindsFirst name l found := by
  rw [hs.findScope_eq he hl, List.find?_eq_some_iff_append, BindsFirst]
  constructor
  · rintro ⟨hbinds, inner, outer, hsplit, hinner⟩
    exact ⟨inner, outer, hsplit, hbinds, fun e he => by simpa using hinner e he⟩
  · rintro ⟨inner, outer, hsplit, hbinds, hinner⟩
    exact ⟨hbinds, inner, outer, hsplit, fun e he => by simpa using hinner e he⟩

theorem findScope_eq_none_iff (hs : s.Nested) (he : s.HasScope e) (hl : Chain s.outer? e l) :
    s.findScope e name = none ↔ ∀ e' ∈ l, (s.scope e').binds name = false := by
  rw [hs.findScope_eq he hl, List.find?_eq_none]
  simp only [Bool.not_eq_true]

theorem lookupName_of_bindsFirst (hs : s.Nested) (he : s.HasScope e) (hl : Chain s.outer? e l)
    (hfound : s.BindsFirst name l found) : s.lookupName e name = (s.scope found).read name := by
  rw [lookupName, (hs.findScope_eq_some_iff he hl).2 hfound]

/-- What a name means is the value of a binding in some scope on the way. -/
theorem exists_binding_of_lookupName (hs : s.Nested) (he : s.HasScope e)
    (hl : Chain s.outer? e l) {v : Value} (hv : s.lookupName e name = .ok v) :
    ∃ e' ∈ l, ∃ b, (s.scope e').binding? name = some b ∧ b.value = v := by
  rw [lookupName] at hv
  cases hfound : s.findScope e name with
  | none =>
    rw [hfound] at hv
    cases hv
  | some found =>
    rw [hfound] at hv
    obtain ⟨inner, outer, rfl, -⟩ := (hs.findScope_eq_some_iff he hl).1 hfound
    exact ⟨found, by simp, Scope.exists_binding_of_read hv⟩

/-- A name is said to mean nothing exactly if no scope on the way binds it. -/
theorem lookupName_unresolvable_iff (hs : s.Nested) (he : s.HasScope e)
    (hl : Chain s.outer? e l) {name' : String} :
    s.lookupName e name = .error (.unresolvableReference name') ↔
      name' = name ∧ ∀ e' ∈ l, (s.scope e').binds name = false := by
  rw [← hs.findScope_eq_none_iff he hl, lookupName]
  cases hfound : s.findScope e name with
  | none => simp [eq_comm]
  | some found =>
    obtain ⟨inner, outer, -, hbinds, -⟩ := (hs.findScope_eq_some_iff he hl).1 hfound
    simp [Scope.read_ne_unresolvable hbinds name']

end Nested

open Evaluation

/-- **The innermost binding decides.** In a reachable store no scope lies around itself, and the way
outwards from a scope ends. Of the scopes on this way the first that binds a name is the one that
the resolution of the name finds; it finds none exactly if none of them binds it. The name means
what the scope that is found makes of it, whether the code is strict or sloppy. So a binding that
waits for its value is reported as such, whatever is bound further out, and a name is reported to
be bound nowhere exactly if it is. -/
theorem innermost_binding_decides (hs : s.Reachable) (he : s.HasScope e) :
    (WellFounded fun o e => s.outer? e = some o) ∧
      ∃ l, Chain s.outer? e l ∧ (∀ e' ∈ l, s.HasScope e') ∧ ∀ name,
        (∀ found, s.findScope e name = some found ↔ s.BindsFirst name l found) ∧
        (s.findScope e name = none ↔ ∀ e' ∈ l, (s.scope e').binds name = false) ∧
        (∀ found, s.BindsFirst name l found →
          s.lookupName e name = (s.scope found).read name) ∧
        (∀ found, s.BindsFirst name l found → (s.scope found).isInitialized name = false →
          s.lookupName e name = .error (.uninitializedBinding name)) ∧
        (∀ name', s.lookupName e name = .error (.unresolvableReference name') ↔
          name' = name ∧ ∀ e' ∈ l, (s.scope e').binds name = false) ∧
        ∀ (a : Agent) (c : Context), a.store = s → a.running? = some c → c.scope = e →
          outcome (expression (.identifier name)) a = s.lookupName e name := by
  have hnested : s.Nested := hs.nested
  obtain ⟨l, hl, -⟩ := hnested.exists_chain e
  have hscopes : ∀ e' ∈ l, s.HasScope e' :=
    hl.forall_mem (fun e o he ho => hnested.hasScope_outer he ho) he
  refine ⟨hnested.wellFounded, l, hl, hscopes, fun name =>
    ⟨fun found => hnested.findScope_eq_some_iff he hl, hnested.findScope_eq_none_iff he hl,
      fun found => hnested.lookupName_of_bindsFirst he hl, ?_,
      fun name' => hnested.lookupName_unresolvable_iff he hl, ?_⟩⟩
  · intro found hfound hwaits
    obtain ⟨inner, outer, -, hbinds, -⟩ := id hfound
    rw [hnested.lookupName_of_bindsFirst he hl hfound, (Scope.waits_of_binds hbinds hwaits).read]
  · rintro a c rfl hc rfl
    exact outcome_identifier hc name

/-- The scopes 0 to 3 lie inside one another. Two names are bound outermost; one of them waits for a
value in the scope 1, and the other can be deleted from the scope 2. -/
def shadowedScopes : List Operation :=
  [.newScope none, .newScope (some ⟨0⟩), .newScope (some ⟨1⟩), .newScope (some ⟨2⟩),
    .inScope ⟨0⟩ (.assign "x" (.boolean true) false),
    .inScope ⟨0⟩ (.assign "y" (.boolean false) false),
    .inScope ⟨1⟩ (.declareImmutable "x" true), .inScope ⟨2⟩ (.assign "y" .null false)]

/-- In the innermost scope, to sloppy and to strict code, the one name waits. The other is what the
scope 2 makes of it, and what the outermost scope makes of it after the deletion. A third name is
bound nowhere. -/
theorem innermost_binding_decides_waiting :
    let s := Operation.performAll {} shadowedScopes
    let s' := (Operation.inScope ⟨2⟩ (.delete "y")).perform s
    s.Reachable ∧ s'.Reachable ∧ s.HasScope ⟨3⟩ ∧ s'.HasScope ⟨3⟩ ∧
      (s.scope ⟨0⟩).read "x" = .ok (.boolean true) ∧
      (∀ realm strict, outcome (expression (.identifier "x"))
        { store := s, heap := 0, realm, contexts := [{ realm, scope := ⟨3⟩, strict }] } =
          .error (.uninitializedBinding "x")) ∧
      s.lookupName ⟨3⟩ "y" = .ok .null ∧ s'.lookupName ⟨3⟩ "y" = .ok (.boolean false) ∧
      s.lookupName ⟨3⟩ "z" = .error (.unresolvableReference "z") := by
  intro s s'
  have hs : s.Reachable := Reachable.performAll (by decide +kernel)
  have h₂ : s.HasScope ⟨2⟩ := by decide +kernel
  have h₃ : s.HasScope ⟨3⟩ := by decide +kernel
  have hs' : s'.Reachable := hs.perform _ h₂
  have h₃' : s'.HasScope ⟨3⟩ := by decide +kernel
  let way : List ScopeId := [⟨3⟩, ⟨2⟩, ⟨1⟩, ⟨0⟩]
  have hway : Chain s.outer? ⟨3⟩ way :=
    .link (by decide +kernel) (.link (by decide +kernel) (.link (by decide +kernel)
      (.last (by decide +kernel))))
  have hway' : Chain s'.outer? ⟨3⟩ way :=
    .link (by decide +kernel) (.link (by decide +kernel) (.link (by decide +kernel)
      (.last (by decide +kernel))))
  obtain ⟨-, l, hl, -, hname⟩ := innermost_binding_decides hs h₃
  obtain ⟨-, l', hl', -, hname'⟩ := innermost_binding_decides hs' h₃'
  cases hl.unique hway
  cases hl'.unique hway'
  have hx : s.BindsFirst "x" way ⟨1⟩ :=
    ⟨[⟨3⟩, ⟨2⟩], [⟨0⟩], rfl, by decide +kernel, by decide +kernel⟩
  have hy : s.BindsFirst "y" way ⟨2⟩ :=
    ⟨[⟨3⟩], [⟨1⟩, ⟨0⟩], rfl, by decide +kernel, by decide +kernel⟩
  have hy' : s'.BindsFirst "y" way ⟨0⟩ :=
    ⟨[⟨3⟩, ⟨2⟩, ⟨1⟩], [], rfl, by decide +kernel, by decide +kernel⟩
  have hz : ∀ e ∈ way, (s.scope e).binds "z" = false := by decide +kernel
  obtain ⟨-, -, -, hwaits, -, hcode⟩ := hname "x"
  obtain ⟨-, -, hread, -⟩ := hname "y"
  obtain ⟨-, -, hread', -⟩ := hname' "y"
  obtain ⟨-, -, -, -, hnowhere, -⟩ := hname "z"
  refine ⟨hs, hs', h₃, h₃', by decide +kernel, fun realm strict => ?_,
    (hread _ hy).trans (by decide +kernel), (hread' _ hy').trans (by decide +kernel),
    (hnowhere "z").2 ⟨rfl, hz⟩⟩
  rw [hcode _ _ rfl rfl rfl]
  exact hwaits _ hx (by decide +kernel)

end Store

end FunctionObjects
