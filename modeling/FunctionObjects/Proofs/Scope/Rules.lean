import FunctionObjects.Proofs.Scope.LifeCycle

/-!
# The rules for bindings

The standard of the language has a table for the bindings of a scope: what each operation on them
does, and when it fails, and why. Here is this table, as relations between a scope, an operation and
the result. There is one case for each line, and a line says what stands in the list of the bindings
before the operation and after it. The operations compute these relations (`apply_eq_iff`,
`read_eq_iff`, `delete_eq_iff`), so the lines leave no case out and do not contradict each other.

In the store an operation that fails changes nothing at all, and neither does a deletion that is
refused.
-/

namespace FunctionObjects

namespace Scope

/-! ### The table -/

/-- The names that the scope binds, in the order of their bindings. -/
def names (s : Scope) : List String := s.bindings.keys

/-- The scope with other bindings. -/
def withEntries (s : Scope) (entries : List (String × Binding)) : Scope :=
  { s with bindings := ⟨entries⟩ }

/-- The scope binds the name, once, between these other bindings. -/
structure Holds (s : Scope) (before : List (String × Binding)) (name : String) (b : Binding)
    (after : List (String × Binding)) : Prop where
  entries : s.bindings.entries = before ++ (name, b) :: after
  notBefore : name ∉ before.map Prod.fst
  notAfter : name ∉ after.map Prod.fst

/-- The binding that an operation makes if it is to make a new one. -/
inductive Operation.Declares : Operation → String → Binding → Prop
  | isMutable (name : String) (deletable : Bool) :
      Declares (.declareMutable name deletable) name { isMutable := true, deletable }
  | immutable (name : String) (strict : Bool) :
      Declares (.declareImmutable name strict) name { isMutable := false, strict }

/-- What comes of reading a name. -/
inductive Reads (s : Scope) (name : String) : Except Error Value → Prop
  | unbound : name ∉ s.names → Reads s name (.error (.unresolvableReference name))
  | early {before after : List (String × Binding)} {b : Binding} :
      s.Holds before name b after → b.initialized = false →
      Reads s name (.error (.uninitializedBinding name))
  | value {before after : List (String × Binding)} {b : Binding} :
      s.Holds before name b after → b.initialized = true → Reads s name (.ok b.value)

/-- What a deletion answers, and the scope after it. -/
inductive Deletes (s : Scope) (name : String) : Bool → Scope → Prop
  | unbound : name ∉ s.names → Deletes s name true s
  | lasting {before after : List (String × Binding)} {b : Binding} :
      s.Holds before name b after → b.deletable = false → Deletes s name false s
  /-- The other bindings move together. -/
  | deleted {before after : List (String × Binding)} {b : Binding} :
      s.Holds before name b after → b.deletable = true →
      Deletes s name true (s.withEntries (before ++ after))

/-- What comes of an operation: the scope after it, or why it fails. -/
inductive Operation.Gives (s : Scope) : Operation → Except Error Scope → Prop
  /-- A name is not bound twice. -/
  | duplicate {op : Operation} {before after : List (String × Binding)} {name : String}
      {b b' : Binding} : op.Declares name b' → s.Holds before name b after →
      Gives s op (.error (.duplicateBinding name))
  /-- A new binding comes last. -/
  | declared {op : Operation} {name : String} {b : Binding} : op.Declares name b →
      name ∉ s.names → Gives s op (.ok (s.withEntries (s.bindings.entries ++ [(name, b)])))
  | initializedUnbound {name : String} {v : Value} : name ∉ s.names →
      Gives s (.initializeBinding name v) (.error (.uninitializedBinding name))
  | initializedTwice {before after : List (String × Binding)} {name : String} {b : Binding}
      {v : Value} : s.Holds before name b after → b.initialized = true →
      Gives s (.initializeBinding name v) (.error (.uninitializedBinding name))
  | initialized {before after : List (String × Binding)} {name : String} {b : Binding}
      {v : Value} : s.Holds before name b after → b.initialized = false →
      Gives s (.initializeBinding name v) (.ok (s.withEntries
        (before ++ (name, { b with value := v, initialized := true }) :: after)))
  | unresolvable {name : String} {v : Value} : name ∉ s.names →
      Gives s (.assign name v true) (.error (.unresolvableReference name))
  /-- Sloppy code that assigns to a name makes a binding of it, which has the value at once. -/
  | assignedUnbound {name : String} {v : Value} : name ∉ s.names →
      Gives s (.assign name v false) (.ok (s.withEntries (s.bindings.entries ++ [(name,
        { value := v, isMutable := true, initialized := true, strict := false,
          deletable := true })])))
  /-- It does not matter here whether the binding is mutable. -/
  | assignedEarly {before after : List (String × Binding)} {name : String} {b : Binding}
      {v : Value} {strict : Bool} : s.Holds before name b after → b.initialized = false →
      Gives s (.assign name v strict) (.error (.uninitializedBinding name))
  | assigned {before after : List (String × Binding)} {name : String} {b : Binding}
      {v : Value} {strict : Bool} : s.Holds before name b after → b.initialized = true →
      b.isMutable = true → Gives s (.assign name v strict)
        (.ok (s.withEntries (before ++ (name, { b with value := v }) :: after)))
  | immutable {before after : List (String × Binding)} {name : String} {b : Binding}
      {v : Value} {strict : Bool} : s.Holds before name b after → b.initialized = true →
      b.isMutable = false → strict = true ∨ b.strict = true →
      Gives s (.assign name v strict) (.error (.immutableBinding name))
  /-- Where neither the code nor the binding is strict, the assignment has no effect. -/
  | ignored {before after : List (String × Binding)} {name : String} {b : Binding}
      {v : Value} : s.Holds before name b after → b.initialized = true → b.isMutable = false →
      b.strict = false → Gives s (.assign name v false) (.ok s)
  | deleted {name : String} {answer : Bool} {s' : Scope} : s.Deletes name answer s' →
      Gives s (.delete name) (.ok s')

/-! ### Names in the list of the bindings -/

variable {s s' : Scope} {name : String} {b : Binding} {before after : List (String × Binding)}

theorem mem_names_iff : name ∈ s.names ↔ s.binds name = true := OrderedMap.mem_keys_iff

theorem binding?_of_not_mem (h : name ∉ s.names) : s.binding? name = none :=
  binds_eq_false_iff.1 (Bool.eq_false_iff.2 fun hbinds => h (mem_names_iff.2 hbinds))

theorem bind_of_not_mem (h : name ∉ s.names) (b : Binding) :
    s.bind name b = s.withEntries (s.bindings.entries ++ [(name, b)]) := by
  rw [bind, OrderedMap.insert_of_not_mem _ _ h, withEntries]

/-- A name is not in the list, or it stands at one place. -/
theorem not_mem_or_exists_holds (hs : s.bindings.Distinct) (name : String) :
    name ∉ s.names ∨ ∃ before b after, s.Holds before name b after := by
  cases hb : s.binding? name with
  | none => exact .inl fun h => by simp [mem_names_iff, binds_eq_isSome, hb] at h
  | some b =>
    obtain ⟨before, after, hsplit, hbefore⟩ := OrderedMap.exists_split hb
    have hnodup : (before.map Prod.fst ++ name :: after.map Prod.fst).Nodup := by
      simpa [OrderedMap.Distinct, OrderedMap.keys, hsplit] using hs
    have hafter := List.nodup_cons.1 (List.nodup_append.1 hnodup).2.1
    exact .inr ⟨before, b, after, hsplit, hbefore, hafter.1⟩

namespace Holds

theorem bindings_eq (h : s.Holds before name b after) :
    s.bindings = ⟨before ++ (name, b) :: after⟩ := by
  rw [← h.entries]

theorem binding? (h : s.Holds before name b after) : s.binding? name = some b := by
  rw [Scope.binding?, h.bindings_eq]
  exact OrderedMap.get?_of_split h.notBefore

theorem bind (h : s.Holds before name b after) (b' : Binding) :
    s.bind name b' = s.withEntries (before ++ (name, b') :: after) := by
  rw [Scope.bind, h.bindings_eq, OrderedMap.insert_of_split h.notBefore, withEntries]

theorem erase (h : s.Holds before name b after) :
    { s with bindings := s.bindings.erase name } = s.withEntries (before ++ after) := by
  -- on both sides all names are different from this one
  have hfilter : ∀ {l : List (String × Binding)}, name ∉ l.map Prod.fst →
      l.filter (fun entry => decide (entry.1 ≠ name)) = l := by
    intro l hl
    refine List.filter_eq_self.2 fun entry hentry => decide_eq_true fun hname => ?_
    exact hl (hname ▸ List.mem_map_of_mem hentry)
  rw [h.bindings_eq, OrderedMap.erase, withEntries, List.filter_append, List.filter_cons_of_neg
    (by simp), hfilter h.notBefore, hfilter h.notAfter]

end Holds

/-! ### The operations follow the table -/

theorem Reads.read_eq {result : Except Error Value} (h : s.Reads name result) :
    s.read name = result := by
  cases h with
  | unbound hname => rw [Scope.read, binding?_of_not_mem hname]
  | early hb hi => exact (waits_of_not_initialized hb.binding? hi).read
  | value hb hi => exact read_of_initialized hb.binding? hi

theorem Deletes.delete_eq {answer : Bool} (h : s.Deletes name answer s') :
    s.delete name = (answer, s') := by
  cases h with
  | unbound hname => rw [delete, binding?_of_not_mem hname]
  | lasting hb hd => simp [delete, hb.binding?, hd]
  | deleted hb hd => simp [delete, hb.binding?, hd, hb.erase]

theorem declare_of_holds (hb : s.Holds before name b after) (b' : Binding) :
    s.declare name b' = .error (.duplicateBinding name) :=
  if_pos (binds_of_binding? hb.binding?)

theorem declare_of_not_mem (h : name ∉ s.names) (b : Binding) :
    s.declare name b = .ok (s.withEntries (s.bindings.entries ++ [(name, b)])) := by
  have hbinds : ¬ s.binds name = true := fun hbinds => h (mem_names_iff.2 hbinds)
  rw [declare, if_neg hbinds, bind_of_not_mem h]

theorem initializeBinding_of_not_mem (h : name ∉ s.names) (v : Value) :
    s.initializeBinding name v = .error (.uninitializedBinding name) := by
  rw [initializeBinding, binding?_of_not_mem h]

theorem assign_of_not_mem_of_strict (h : name ∉ s.names) (v : Value) :
    s.assign name v true = .error (.unresolvableReference name) := by
  rw [assign, binding?_of_not_mem h]
  rfl

/-- Of the two operations that a sloppy assignment consists of neither fails. -/
theorem assign_of_not_mem (h : name ∉ s.names) (v : Value) :
    s.assign name v false = .ok (s.withEntries (s.bindings.entries ++ [(name,
      { value := v, isMutable := true, initialized := true, deletable := true })])) := by
  have hassign : s.assign name v false = s.declareMutable name true >>= fun s =>
      s.initializeBinding name v := by
    rw [assign, binding?_of_not_mem h]
    rfl
  have hdeclare : s.declareMutable name true =
      .ok (s.bind name { isMutable := true, deletable := true }) := by
    rw [declareMutable, declare_of_not_mem h, bind_of_not_mem h]
  have hb : (s.bind name { isMutable := true, deletable := true }).binding? name =
      some { isMutable := true, deletable := true } :=
    (binding?_bind _ _ _ _).trans (if_pos rfl)
  have hinit := initializeBinding_of_not_initialized hb rfl v
  rw [bind_bind] at hinit
  rw [hassign, hdeclare, ← bind_of_not_mem h]
  exact hinit

theorem Operation.Declares.apply_eq {op : Operation} (h : op.Declares name b) (s : Scope) :
    op.apply s = s.declare name b := by
  cases h <;> rfl

/-- What the table says is computed. -/
theorem Operation.Gives.apply_eq {op : Operation} {result : Except Error Scope}
    (h : op.Gives s result) : op.apply s = result := by
  cases h with
  | duplicate hop hb => rw [hop.apply_eq, declare_of_holds hb]
  | declared hop hname => rw [hop.apply_eq, declare_of_not_mem hname]
  | initializedUnbound hname => exact initializeBinding_of_not_mem hname _
  | initializedTwice hb hi => exact initializeBinding_of_initialized hb.binding? hi _
  | initialized hb hi =>
    rw [← hb.bind]
    exact initializeBinding_of_not_initialized hb.binding? hi _
  | unresolvable hname => exact assign_of_not_mem_of_strict hname _
  | assignedUnbound hname => exact assign_of_not_mem hname _
  | assignedEarly hb hi => exact (waits_of_not_initialized hb.binding? hi).assign _ _
  | assigned hb hi hm => simp [apply, Scope.assign, hb.binding?, hi, hm, hb.bind]
  | immutable hb hi hm hstrict => simp [apply, Scope.assign, hb.binding?, hi, hm, hstrict]
  | ignored hb hi hm hstrict => simp [apply, Scope.assign, hb.binding?, hi, hm, hstrict]
  | deleted hdelete => rw [apply, hdelete.delete_eq]

/-! ### The table leaves nothing out -/

theorem exists_reads (hs : s.bindings.Distinct) (name : String) :
    ∃ result, s.Reads name result := by
  rcases not_mem_or_exists_holds hs name with hname | ⟨before, b, after, hb⟩
  · exact ⟨_, .unbound hname⟩
  · cases hi : b.initialized with
    | false => exact ⟨_, .early hb hi⟩
    | true => exact ⟨_, .value hb hi⟩

theorem exists_deletes (hs : s.bindings.Distinct) (name : String) :
    ∃ answer s', s.Deletes name answer s' := by
  rcases not_mem_or_exists_holds hs name with hname | ⟨before, b, after, hb⟩
  · exact ⟨_, _, .unbound hname⟩
  · cases hd : b.deletable with
    | false => exact ⟨_, _, .lasting hb hd⟩
    | true => exact ⟨_, _, .deleted hb hd⟩

theorem Operation.Declares.exists_gives {op : Operation} (hop : op.Declares name b)
    (hs : s.bindings.Distinct) : ∃ result, op.Gives s result := by
  rcases not_mem_or_exists_holds hs name with hname | ⟨before, b, after, hb⟩
  · exact ⟨_, .declared hop hname⟩
  · exact ⟨_, .duplicate hop hb⟩

theorem Operation.exists_gives (hs : s.bindings.Distinct) (op : Operation) :
    ∃ result, op.Gives s result := by
  cases op with
  | declareMutable name deletable => exact (Declares.isMutable name deletable).exists_gives hs
  | declareImmutable name strict => exact (Declares.immutable name strict).exists_gives hs
  | initializeBinding name v =>
    rcases not_mem_or_exists_holds hs name with hname | ⟨before, b, after, hb⟩
    · exact ⟨_, .initializedUnbound hname⟩
    · cases hi : b.initialized with
      | false => exact ⟨_, .initialized hb hi⟩
      | true => exact ⟨_, .initializedTwice hb hi⟩
  | assign name v strict =>
    rcases not_mem_or_exists_holds hs name with hname | ⟨before, b, after, hb⟩
    · cases strict with
      | false => exact ⟨_, .assignedUnbound hname⟩
      | true => exact ⟨_, .unresolvable hname⟩
    · cases hi : b.initialized with
      | false => exact ⟨_, .assignedEarly hb hi⟩
      | true =>
        cases hm : b.isMutable with
        | true => exact ⟨_, .assigned hb hi hm⟩
        | false =>
          cases strict with
          | true => exact ⟨_, .immutable hb hi hm (.inl rfl)⟩
          | false =>
            cases hstrict : b.strict with
            | true => exact ⟨_, .immutable hb hi hm (.inr hstrict)⟩
            | false => exact ⟨_, .ignored hb hi hm hstrict⟩
  | delete name =>
    obtain ⟨answer, s', hdelete⟩ := exists_deletes hs name
    exact ⟨_, .deleted hdelete⟩

/-! ### The operations are the table -/

theorem read_eq_iff (hs : s.bindings.Distinct) {result : Except Error Value} :
    s.read name = result ↔ s.Reads name result :=
  eq_iff_of_rule (exists_reads hs name) (fun _ => Reads.read_eq) result

theorem delete_eq_iff (hs : s.bindings.Distinct) {answer : Bool} :
    s.delete name = (answer, s') ↔ s.Deletes name answer s' := by
  refine ⟨fun heq => ?_, Deletes.delete_eq⟩
  obtain ⟨answer', s'', h⟩ := exists_deletes hs name
  cases heq.symm.trans h.delete_eq
  exact h

theorem Operation.apply_eq_iff (hs : s.bindings.Distinct) {op : Operation}
    {result : Except Error Scope} : op.apply s = result ↔ op.Gives s result :=
  eq_iff_of_rule (op.exists_gives hs) (fun _ => Gives.apply_eq) result

/-- What has been deleted is gone, as it was bound once. -/
theorem Deletes.not_mem_names (h : s.Deletes name true s') : name ∉ s'.names := by
  cases h with
  | unbound hname => exact hname
  | @deleted before after b hb hd =>
    show name ∉ (before ++ after).map Prod.fst
    rw [List.map_append, List.mem_append]
    exact fun h => h.elim hb.notBefore hb.notAfter

/-- A deletion that is refused changes nothing. -/
theorem Deletes.eq_of_false (h : s.Deletes name false s') : s' = s := by
  cases h with
  | lasting => rfl

end Scope

/-! ### The operations in the store -/

namespace Store

variable {s : Store} {e : ScopeId}

/-- **Bindings are treated by the rules of the standard.** In each scope of a reachable store all
operations have the results that the table says, and no others. If an operation fails, or if a
deletion is refused, everything is as it was. Otherwise the scope is as the table says, and all
other scopes are the same. What has been deleted is not bound any more. -/
theorem bindings_by_rule (hs : s.Reachable) (he : s.HasScope e) :
    (∀ (op : Scope.Operation) result, op.apply (s.scope e) = result ↔ op.Gives (s.scope e) result) ∧
      (∀ name result, (s.scope e).read name = result ↔ (s.scope e).Reads name result) ∧
      (∀ name answer scope, (s.scope e).delete name = (answer, scope) ↔
        (s.scope e).Deletes name answer scope) ∧
      (∀ name scope, (s.scope e).Deletes name true scope → scope.binds name = false) ∧
      (∀ (op : Scope.Operation) cause, op.apply (s.scope e) = .error cause →
        Effect.updateScope e (fun scope => op.apply scope) s = .error cause s) ∧
      (∀ name, ((s.scope e).delete name).1 = false →
        Effect.updateScope e (fun scope => (Scope.Operation.delete name).apply scope) s =
          .ok () s) ∧
      ∀ (op : Scope.Operation) scope, op.apply (s.scope e) = .ok scope →
        ∃ s', Effect.updateScope e (fun scope => op.apply scope) s = .ok () s' ∧
          ∀ e', s'.scope e' = if e' = e then scope else s.scope e' := by
  have hdistinct := (hs.regular e).distinct
  refine ⟨fun op result => Scope.Operation.apply_eq_iff hdistinct,
    fun name result => Scope.read_eq_iff hdistinct,
    fun name answer scope => Scope.delete_eq_iff hdistinct, ?_, ?_, ?_, ?_⟩
  · intro name scope h
    exact Bool.eq_false_iff.2 fun hbinds => h.not_mem_names (Scope.mem_names_iff.2 hbinds)
  · intro op cause h
    rw [Effect.updateScope, h]
  · intro name hanswer
    obtain ⟨answer, scope, h⟩ := Scope.exists_deletes hdistinct name
    rw [h.delete_eq] at hanswer
    cases hanswer
    have happly : (Scope.Operation.delete name).apply (s.scope e) = .ok (s.scope e) := by
      rw [Scope.Operation.apply, h.delete_eq, h.eq_of_false]
    rw [Effect.updateScope, happly]
    exact congrArg (EStateM.Result.ok ()) (setScope_scope s e he)
  · intro op scope h
    refine ⟨s.setScope e scope, ?_, fun e' => scope_setScope s e e' scope he⟩
    rw [Effect.updateScope, h]

/-- A scope in which an immutable binding waits for its value, and sloppy code has then assigned to
a name that was not bound. -/
def waitingScope : Store :=
  Operation.performAll {} [.newScope none, .inScope ⟨0⟩ (.declareImmutable "x" false),
    .inScope ⟨0⟩ (.assign "y" .null false)]

/-- To assign to the immutable binding fails because it has no value. It cannot be deleted, but the
binding of the other name can. -/
theorem bindings_by_rule_waiting :
    let s := waitingScope
    let waiting : Binding := { isMutable := false }
    s.Reachable ∧ s.HasScope ⟨0⟩ ∧
      Effect.updateScope ⟨0⟩ (fun scope => (Scope.Operation.assign "x" .null true).apply scope) s =
        .error (.uninitializedBinding "x") s ∧
      (s.scope ⟨0⟩).read "y" = .ok .null ∧
      (s.scope ⟨0⟩).delete "x" = (false, s.scope ⟨0⟩) ∧
      (s.scope ⟨0⟩).delete "y" = (true, (s.scope ⟨0⟩).withEntries [("x", waiting)]) := by
  intro s waiting
  have hs : s.Reachable := Reachable.performAll (by decide +kernel)
  have he : s.HasScope ⟨0⟩ := by decide +kernel
  let made : Binding :=
    { value := .null, isMutable := true, initialized := true, deletable := true }
  have hentries : (s.scope ⟨0⟩).bindings.entries = [("x", waiting), ("y", made)] := by
    decide +kernel
  have hx : (s.scope ⟨0⟩).Holds [] "x" waiting [("y", made)] := ⟨hentries, by simp, by simp⟩
  have hy : (s.scope ⟨0⟩).Holds [("x", waiting)] "y" made [] := ⟨hentries, by simp, by simp⟩
  obtain ⟨hgives, hreads, hdeletes, -, hfails, -⟩ := bindings_by_rule hs he
  have hassign := (hgives (.assign "x" .null true) _).2 (.assignedEarly hx rfl)
  exact ⟨hs, he, hfails _ _ hassign, (hreads "y" _).2 (.value hy rfl),
    (hdeletes "x" _ _).2 (.lasting hx rfl), (hdeletes "y" _ _).2 (.deleted hy rfl)⟩

end Store

end FunctionObjects
