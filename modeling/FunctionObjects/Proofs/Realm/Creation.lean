import FunctionObjects.Proofs.Store.Extension

/-!
# What a new realm is

The creation of a realm is followed step by step and never fails (`create_eq`): the heap has seven
more objects, given as a list, and there is one more scope.

The order in which the objects are made matters to whoever uses the handles in another heap. The
objects from which instances inherit come before the prototypes of the functions that make them
(`CreatedIn.instanceParent_lt`), so where the latter exists, the former does.
-/

namespace FunctionObjects

/-- The intrinsics of a realm whose first object has the number `n`. -/
def Intrinsics.startingAt (n : ObjectId) : Intrinsics where
  objectPrototype := n
  functionPrototype := n + 1
  asyncFunctionPrototype := n + 2
  generatorPrototype := n + 3
  generatorFunctionPrototype := n + 4
  asyncGeneratorPrototype := n + 5
  asyncGeneratorFunctionPrototype := n + 6

/-- What the prototype object for the instances of a new function inherits from. An asynchronous
function has no instances. -/
def Intrinsics.instanceParent? (i : Intrinsics) : Species → Option ObjectId
  | .ordinary => some i.objectPrototype
  | .async => none
  | .generator => some i.generatorPrototype
  | .asyncGenerator => some i.asyncGeneratorPrototype

namespace Intrinsics

/-- Whatever the instances of a function inherit from was made before the function's own
prototype. -/
theorem instanceParent?_lt {n : ObjectId} {species : Species} {q : ObjectId}
    (hq : (startingAt n).instanceParent? species = some q) :
    q < (startingAt n).functionPrototypeFor species := by
  cases species with
  | async => cases hq
  | ordinary | generator | asyncGenerator =>
    cases hq
    exact Nat.lt_succ_self _

theorem functionPrototypeFor_lt (n : ObjectId) (species : Species) :
    (startingAt n).functionPrototypeFor species < n + 7 := by
  cases species <;> simp [functionPrototypeFor, startingAt]

end Intrinsics

namespace Realm

open Effect Store

variable {s : Store} {h : HeapId} {l : List Object}

/-- A prototype object with the given own properties. -/
def prototypeObject (h : HeapId) (id parent : ObjectId) (className : String)
    (properties : List (String × Property)) : Object :=
  { Object.plain h id parent with properties := ⟨properties⟩, className }

/-- The property by which a class of generator functions and its instances know each other. -/
def link (id : ObjectId) : Property :=
  { value := .object id, writable := false, enumerable := false, configurable := true }

/-- The prototype objects of a realm, the first of them at `n`. -/
def prototypes (h : HeapId) (n : ObjectId) : List Object :=
  [{ id := some n },
    prototypeObject h (n + 1) n "Function" [],
    prototypeObject h (n + 2) (n + 1) "AsyncFunction" [],
    prototypeObject h (n + 3) n "Generator" [("constructor", link (n + 4))],
    prototypeObject h (n + 4) (n + 1) "GeneratorFunction" [("prototype", link (n + 3))],
    prototypeObject h (n + 5) n "AsyncGenerator" [("constructor", link (n + 6))],
    prototypeObject h (n + 6) (n + 1) "AsyncGeneratorFunction" [("prototype", link (n + 5))]]

/-- The global scope of a new realm. -/
def freshGlobalScope : Scope :=
  .single "undefined" { isMutable := false, initialized := true } none

/-! ### The steps -/

theorem createPrototype_extend (hl : (s.extend h l).Linked) (hh : s.HasHeap h) {p : ObjectId}
    (hp : p < s.heapSize h + l.length) (name : String) :
    let n := s.heapSize h + l.length
    createPrototype h p name (s.extend h l) =
        .ok n (s.extend h (l ++ [prototypeObject h n p name []])) ∧
      (s.extend h (l ++ [prototypeObject h n p name []])).Linked := by
  intro n
  have hn : n = s.heapSize h + l.length := rfl
  have hclass := updateObject_extend hh (l := l ++ [.plain h n p])
    (f := fun o => .ok { o with className := name }) hn (List.getElem?_concat_length) rfl
  have heq : createPrototype h p name (s.extend h l) =
      .ok n (s.extend h (l ++ [prototypeObject h n p name []])) := by
    rw [createPrototype, bind_of_ok (createObject_extend hl hh hp)]
    refine (bind_of_ok hclass).trans ?_
    rw [List.set_append_right]
    · simp [prototypeObject, Object.plain, pure, EStateM.pure, n]
    · exact le_rfl
  have hchanges : Changes (fun _ => True) True _ _ :=
    ((changes_createPrototype p name (hasHeap_extend.2 hh)).of_ok heq).1
  exact ⟨heq, hl.changes hchanges⟩

theorem linkGenerators_extend (hl : (s.extend h l).Linked) (hh : s.HasHeap h) {i j : Nat}
    {m n p q : ObjectId} {a b : String} (hi : l[i]? = some (prototypeObject h m p a []))
    (hj : l[j]? = some (prototypeObject h n q b [])) (hij : i ≠ j) :
    let l' := (l.set i (prototypeObject h m p a [("prototype", link (s.heapSize h + j))])).set j
      (prototypeObject h n q b [("constructor", link (s.heapSize h + i))])
    linkGenerators h (s.heapSize h + i) (s.heapSize h + j) (s.extend h l) =
        .ok () (s.extend h l') ∧
      (s.extend h l').Linked := by
  intro l'
  have hlt : ∀ {k : Nat} {o : Object}, l[k]? = some o →
      s.heapSize h + k < (s.extend h l).heapSize h := fun hk => by
    rw [heapSize_extend hh]
    exact Nat.add_lt_add_left (List.getElem?_eq_some_iff.1 hk).1 _
  have hf := defineProperty_extend hh rfl hi rfl "prototype" List.not_mem_nil
    (.data (.object (s.heapSize h + j)) false false true)
  -- the first of the two definitions leaves the second object alone
  have hj' : (l.set i (prototypeObject h m p a [("prototype", link (s.heapSize h + j))]))[j]? =
      some (prototypeObject h n q b []) := by
    rw [List.getElem?_set_ne hij, hj]
  have hg := defineProperty_extend hh rfl hj' rfl "constructor" List.not_mem_nil
    (.data (.object (s.heapSize h + i)) false false true)
  have heq : linkGenerators h (s.heapSize h + i) (s.heapSize h + j) (s.extend h l) =
      .ok () (s.extend h l') := by
    rw [linkGenerators, bind_of_ok (resolve_of_lt hl.toConsistent (hlt hi)),
      bind_of_ok (resolve_of_lt hl.toConsistent (hlt hj))]
    exact (bind_of_ok hf).trans hg
  have hchanges : Changes (fun _ => True) True _ _ := ((changes_linkGenerators h _ _).of_ok heq).1
  exact ⟨heq, hl.changes hchanges⟩

theorem createGlobalScope_eq (s : Store) :
    createGlobalScope s = .ok s.nextScope (s.pushScope freshGlobalScope) := by
  have hnew : newScope {} s = .ok s.nextScope (s.pushScope {}) := rfl
  have hdeclare := updateScope_pushScope (s := s)
    (f := fun scope => scope.declareImmutable "undefined" false)
    (Scope.declareImmutable_empty none false)
  have hinit := updateScope_pushScope (s := s)
    (f := fun scope => scope.initializeBinding "undefined" .undefined)
    (Scope.initializeBinding_single none (b := { isMutable := false }) rfl)
  rw [createGlobalScope, bind_of_ok hnew]
  exact (bind_of_ok hdeclare).trans (bind_of_ok hinit)

/-! ### The whole -/

/-- The realm that is created next in a heap. -/
def next (s : Store) (h : HeapId) : Realm where
  id := s.realmsIssued + 1
  intrinsics := .startingAt (s.heapSize h)
  globalScope := s.nextScope

/-- The store after the creation of a realm. -/
def afterNext (s : Store) (h : HeapId) : Store :=
  { (s.extend h (prototypes h (s.heapSize h))).pushScope freshGlobalScope with
    realmsIssued := s.realmsIssued + 1 }

/-- **The creation of a realm does not fail.** It makes seven objects and a scope. -/
theorem create_eq (hs : s.Linked) (hh : s.HasHeap h) :
    create h s = .ok (next s h) (afterNext s h) := by
  have l₀ : (s.extend h [{ id := some (s.heapSize h) }]).Linked := hs.extend hh rfl (by simp)
  obtain ⟨h₁, l₁⟩ := createPrototype_extend l₀ hh (p := s.heapSize h) (by simp) "Function"
  obtain ⟨h₂, l₂⟩ := createPrototype_extend l₁ hh (p := s.heapSize h + 1) (by simp)
    "AsyncFunction"
  obtain ⟨h₃, l₃⟩ := createPrototype_extend l₂ hh (p := s.heapSize h) (by simp) "Generator"
  obtain ⟨h₄, l₄⟩ := createPrototype_extend l₃ hh (p := s.heapSize h + 1) (by simp)
    "GeneratorFunction"
  obtain ⟨h₅, l₅⟩ := linkGenerators_extend l₄ hh (i := 4) (j := 3) rfl rfl (by decide)
  obtain ⟨h₆, l₆⟩ := createPrototype_extend l₅ hh (p := s.heapSize h) (by simp)
    "AsyncGenerator"
  obtain ⟨h₇, l₇⟩ := createPrototype_extend l₆ hh (p := s.heapSize h + 1) (by simp)
    "AsyncGeneratorFunction"
  obtain ⟨h₈, -⟩ := linkGenerators_extend l₇ hh (i := 6) (j := 5) rfl rfl (by decide)
  rw [create, bind_of_ok (allocate_eq hs h {})]
  refine (bind_of_ok h₁).trans ?_
  refine (bind_of_ok h₂).trans ?_
  refine (bind_of_ok h₃).trans ?_
  refine (bind_of_ok h₄).trans ?_
  refine (bind_of_ok h₅).trans ?_
  refine (bind_of_ok h₆).trans ?_
  refine (bind_of_ok h₇).trans ?_
  refine (bind_of_ok h₈).trans ?_
  refine (bind_of_ok (createGlobalScope_eq _)).trans ?_
  -- the list of objects and their numbers come out by computation
  rfl

theorem reachable_afterNext (hs : s.Reachable) (hh : s.HasHeap h) : (afterNext s h).Reachable := by
  have hstep := hs.perform (.createRealm h) hh
  rwa [Operation.perform, finalState_of_ok (create_eq hs.linked hh)] at hstep

/-! ### Afterwards -/

/-- The realm was created in a heap at some time, and the store came about afterwards. -/
def CreatedIn (realm : Realm) (h : HeapId) (s : Store) : Prop :=
  ∃ s₀ s₁, s₀.Reachable ∧ s₀.HasHeap h ∧ create h s₀ = .ok realm s₁ ∧ Steps s₁ s

namespace CreatedIn

variable {realm : Realm}

theorem next (hs : s.Reachable) (hh : s.HasHeap h) :
    (Realm.next s h).CreatedIn h (afterNext s h) :=
  ⟨s, afterNext s h, hs, hh, create_eq hs.linked hh, .refl⟩

theorem steps (hr : realm.CreatedIn h s) {s' : Store} (h' : Steps s s') :
    realm.CreatedIn h s' := by
  obtain ⟨s₀, s₁, hs₀, hh, hcreate, hs⟩ := hr
  exact ⟨s₀, s₁, hs₀, hh, hcreate, hs.trans h'⟩

theorem hasHeap (hr : realm.CreatedIn h s) : s.HasHeap h := by
  obtain ⟨s₀, s₁, hs₀, hh, hcreate, hs⟩ := hr
  have hcreated : Changes (fun _ => True) True s₀ s₁ := ((changes_create hh).of_ok hcreate).1
  have hall : Changes (fun _ => True) True s₀ s := hcreated.trans hs.changes
  exact hall.grows.hasHeap hh

theorem intrinsics (hr : realm.CreatedIn h s) :
    ∃ n, realm.intrinsics = .startingAt n ∧ n + 7 ≤ s.heapSize h := by
  obtain ⟨s₀, s₁, hs₀, hh, hcreate, hs⟩ := hr
  rw [create_eq hs₀.linked hh] at hcreate
  cases hcreate
  refine ⟨s₀.heapSize h, rfl, ?_⟩
  have hsize : (afterNext s₀ h).heapSize h = s₀.heapSize h + 7 := heapSize_extend hh _
  rw [← hsize]
  exact hs.changes.grows.heapSize h

theorem instanceParent_lt (hr : realm.CreatedIn h s) {species : Species} {q : ObjectId}
    (hq : realm.intrinsics.instanceParent? species = some q) :
    q < realm.intrinsics.functionPrototypeFor species := by
  obtain ⟨n, hn, -⟩ := hr.intrinsics
  rw [hn] at hq ⊢
  exact Intrinsics.instanceParent?_lt hq

theorem functionPrototypeFor_lt (hr : realm.CreatedIn h s) (species : Species) :
    realm.intrinsics.functionPrototypeFor species < s.heapSize h := by
  obtain ⟨n, hn, hsize⟩ := hr.intrinsics
  rw [hn]
  exact lt_of_lt_of_le (Intrinsics.functionPrototypeFor_lt n species) hsize

end CreatedIn

end Realm

end FunctionObjects
