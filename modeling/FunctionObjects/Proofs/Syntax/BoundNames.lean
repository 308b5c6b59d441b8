import FunctionObjects.Syntax.Definition

/-!
# Which names a pattern binds, and in which order

The identifiers that a pattern binds stand at its leaves. The place of a leaf is a path: for every
array or object pattern on the way to it, the position of the element or of the entry that leads
there. `Pattern.BindsAt` says which identifiers stand where, and the order of the source text is the
lexicographic order of the paths.

`Pattern.leaves` lists all of them in that order, and going through a pattern adds the names of this
list and nothing else (`Pattern.toList_addBoundNames`). What is proved about a pattern is proved
along `Pattern.induction`, which supposes it of the patterns directly below an array or object
pattern, wherever they stand there.
-/

namespace FunctionObjects

/-! ### Induction on patterns -/

/-- The pattern of an entry, unless it is a mere name. -/
def PropertyPattern.target? : PropertyPattern → Option Pattern
  | .keyed _ target | .rest target => some target
  | .shorthand _ => none

/-- What an induction on patterns has to show. Default values do not count as parts. -/
structure PatternCases (P : Pattern → Prop) : Prop where
  identifier : ∀ name, P (.identifier name)
  array : ∀ elements, (∀ p, some p ∈ elements → P p) → P (.array elements)
  object : ∀ properties, (∀ e ∈ properties, ∀ p, e.target? = some p → P p) →
    P (.object properties)
  withDefault : ∀ target initializer, P target → P (.withDefault target initializer)
  rest : ∀ target, P target → P (.rest target)

namespace PatternCases

variable {P : Pattern → Prop}

mutual

theorem pattern (h : PatternCases P) (p : Pattern) : P p := by
  match p with
  | .identifier name => exact h.identifier name
  | .array elements => exact h.array elements (h.elements elements)
  | .object properties => exact h.object properties (h.properties properties)
  | .withDefault target initializer => exact h.withDefault target initializer (h.pattern target)
  | .rest target => exact h.rest target (h.pattern target)

theorem elements (h : PatternCases P) (elements : List (Option Pattern)) :
    ∀ p, some p ∈ elements → P p := by
  intro p hp
  match elements with
  | none :: elements =>
    rcases List.mem_cons.1 hp with heq | hp
    · cases heq
    · exact h.elements elements p hp
  | some element :: elements =>
    rcases List.mem_cons.1 hp with heq | hp
    · exact Option.some.inj heq ▸ h.pattern element
    · exact h.elements elements p hp

theorem properties (h : PatternCases P) (properties : List PropertyPattern) :
    ∀ e ∈ properties, ∀ p, e.target? = some p → P p := by
  match properties with
  | [] => exact List.forall_mem_nil _
  | e :: properties =>
    refine List.forall_mem_cons.2 ⟨fun p hp => ?_, h.properties properties⟩
    match e with
    | .keyed _ target => exact Option.some.inj hp ▸ h.pattern target
    | .rest target => exact Option.some.inj hp ▸ h.pattern target

end

end PatternCases

@[elab_as_elim]
theorem Pattern.induction {P : Pattern → Prop} (identifier : ∀ name, P (.identifier name))
    (array : ∀ elements, (∀ p, some p ∈ elements → P p) → P (.array elements))
    (object : ∀ properties, (∀ e ∈ properties, ∀ p, e.target? = some p → P p) →
      P (.object properties))
    (withDefault : ∀ target initializer, P target → P (.withDefault target initializer))
    (rest : ∀ target, P target → P (.rest target)) (p : Pattern) : P p :=
  PatternCases.pattern ⟨identifier, array, object, withDefault, rest⟩ p


/-! ### Leaves -/

/-- At the end of the path stands an identifier that the pattern binds. No path leads to a key, to a
hole or into a default value. -/
inductive Pattern.BindsAt : Pattern → List Nat → String → Prop
  | identifier (name : String) : BindsAt (.identifier name) [] name
  | element {elements : List (Option Pattern)} {i : Nat} {p : Pattern} {path : List Nat}
      {name : String} : elements[i]? = some (some p) → BindsAt p path name →
      BindsAt (.array elements) (i :: path) name
  | target {properties : List PropertyPattern} {i : Nat} {e : PropertyPattern} {p : Pattern}
      {path : List Nat} {name : String} : properties[i]? = some e → e.target? = some p →
      BindsAt p path name → BindsAt (.object properties) (i :: path) name
  | shorthand {properties : List PropertyPattern} {i : Nat} {name : String} :
      properties[i]? = some (.shorthand name) → BindsAt (.object properties) [i] name
  | withDefault {p : Pattern} {initializer : Expression} {path : List Nat} {name : String} :
      BindsAt p path name → BindsAt (.withDefault p initializer) path name
  | rest {p : Pattern} {path : List Nat} {name : String} :
      BindsAt p path name → BindsAt (.rest p) path name

/-- An identifier and the path to it. -/
abbrev Leaf := List Nat × String

/-- The leaves of the parts of a pattern, as they are seen from the pattern. -/
def leavesBelow (parts : List (List Leaf)) : List Leaf :=
  (parts.mapIdx fun i part => part.map fun l => (i :: l.1, l.2)).flatten

mutual

/-- The identifiers that the pattern binds, from left to right. -/
def Pattern.leaves : Pattern → List Leaf
  | .identifier name => [([], name)]
  | .array elements => leavesBelow (elementLeaves elements)
  | .object properties => leavesBelow (propertyLeaves properties)
  | .withDefault target _ => target.leaves
  | .rest target => target.leaves

def elementLeaves : List (Option Pattern) → List (List Leaf)
  | [] => []
  | none :: elements => [] :: elementLeaves elements
  | some element :: elements => element.leaves :: elementLeaves elements

def propertyLeaves : List PropertyPattern → List (List Leaf)
  | [] => []
  | .keyed _ target :: properties => target.leaves :: propertyLeaves properties
  | .shorthand name :: properties => [([], name)] :: propertyLeaves properties
  | .rest target :: properties => target.leaves :: propertyLeaves properties

end

/-- The leaves of an entry by itself. -/
def PropertyPattern.leaves : PropertyPattern → List Leaf
  | .keyed _ target | .rest target => target.leaves
  | .shorthand name => [([], name)]

theorem leaves_array (elements : List (Option Pattern)) : (Pattern.array elements).leaves =
    leavesBelow (elements.map fun e => e.elim [] Pattern.leaves) := by
  rw [Pattern.leaves]
  congr 1
  induction elements with
  | nil => rfl
  | cons e elements ih => cases e <;> simp [elementLeaves, ih]

theorem leaves_object (properties : List PropertyPattern) :
    (Pattern.object properties).leaves = leavesBelow (properties.map PropertyPattern.leaves) := by
  rw [Pattern.leaves]
  congr 1
  induction properties with
  | nil => rfl
  | cons e properties ih => cases e <;> simp [propertyLeaves, PropertyPattern.leaves, ih]

theorem mem_leavesBelow_iff {parts : List (List Leaf)} {path : List Nat} {name : String} :
    (path, name) ∈ leavesBelow parts ↔
      ∃ i part rest, parts[i]? = some part ∧ (rest, name) ∈ part ∧ path = i :: rest := by
  simp only [leavesBelow, List.mem_flatten, List.mem_mapIdx]
  constructor
  · rintro ⟨_, ⟨i, hi, rfl⟩, hmem⟩
    obtain ⟨⟨rest, _⟩, hrest, heq⟩ := List.mem_map.1 hmem
    cases heq
    exact ⟨i, parts[i], rest, List.getElem?_eq_getElem hi, hrest, rfl⟩
  · rintro ⟨i, part, rest, hpart, hrest, rfl⟩
    obtain ⟨hi, rfl⟩ := List.getElem?_eq_some_iff.1 hpart
    exact ⟨_, ⟨i, hi, rfl⟩, List.mem_map.2 ⟨_, hrest, rfl⟩⟩

theorem PropertyPattern.mem_leaves_iff {e : PropertyPattern} {path : List Nat} {name : String} :
    (path, name) ∈ e.leaves ↔
      (∃ p, e.target? = some p ∧ (path, name) ∈ p.leaves) ∨ e = .shorthand name ∧ path = [] := by
  cases e with
  | keyed | rest => simp [leaves, target?]
  | shorthand n => simp [leaves, target?, eq_comm, and_comm]

/-- Every leaf is listed with its path, and nothing else is. -/
theorem Pattern.mem_leaves_iff {p : Pattern} {path : List Nat} {name : String} :
    (path, name) ∈ p.leaves ↔ p.BindsAt path name := by
  induction p using Pattern.induction generalizing path with
  | identifier n =>
    rw [leaves, List.mem_singleton]
    constructor
    · rintro ⟨⟩
      exact .identifier name
    · rintro ⟨⟩
      rfl
  | array elements ih =>
    rw [leaves_array, mem_leavesBelow_iff]
    constructor
    · rintro ⟨i, part, rest, hpart, hrest, rfl⟩
      rw [List.getElem?_map] at hpart
      obtain ⟨e, he, rfl⟩ := Option.map_eq_some_iff.1 hpart
      cases e with
      | none => cases hrest
      | some p => exact .element he ((ih p (List.mem_of_getElem? he)).1 hrest)
    · rintro (_ | ⟨he, hp⟩)
      refine ⟨_, _, _, by rw [List.getElem?_map, he]; rfl, ?_, rfl⟩
      exact (ih _ (List.mem_of_getElem? he)).2 hp
  | object properties ih =>
    rw [leaves_object, mem_leavesBelow_iff]
    constructor
    · rintro ⟨i, part, rest, hpart, hrest, rfl⟩
      rw [List.getElem?_map] at hpart
      obtain ⟨e, he, rfl⟩ := Option.map_eq_some_iff.1 hpart
      rcases PropertyPattern.mem_leaves_iff.1 hrest with ⟨p, hp, hrest⟩ | ⟨rfl, rfl⟩
      · exact .target he hp ((ih e (List.mem_of_getElem? he) p hp).1 hrest)
      · exact .shorthand he
    · rintro (_ | _ | ⟨he, hp, hrest⟩ | ⟨he⟩)
      · refine ⟨_, _, _, by rw [List.getElem?_map, he]; rfl, ?_, rfl⟩
        exact PropertyPattern.mem_leaves_iff.2
          (.inl ⟨_, hp, (ih _ (List.mem_of_getElem? he) _ hp).2 hrest⟩)
      · refine ⟨_, _, _, by rw [List.getElem?_map, he]; rfl, ?_, rfl⟩
        exact PropertyPattern.mem_leaves_iff.2 (.inr ⟨rfl, rfl⟩)
  | withDefault target initializer ih =>
    rw [leaves, ih]
    constructor
    · exact .withDefault
    · rintro ⟨⟩
      assumption
  | rest target ih =>
    rw [leaves, ih]
    constructor
    · exact .rest
    · rintro ⟨⟩
      assumption

/-! ### Order -/

/-- The leaves are in the order of their paths, none of which occurs twice. -/
def InSourceOrder (ls : List Leaf) : Prop := ls.Pairwise fun l l' => l.1 < l'.1

theorem inSourceOrder_leavesBelow {parts : List (List Leaf)}
    (h : ∀ part ∈ parts, InSourceOrder part) : InSourceOrder (leavesBelow parts) := by
  refine List.pairwise_flatten.2 ⟨?_, ?_⟩
  · intro _ hmem
    obtain ⟨i, hi, rfl⟩ := List.mem_mapIdx.1 hmem
    refine List.pairwise_map.2 ((h _ (List.getElem_mem hi)).imp ?_)
    intro l l' hlt
    exact List.cons_lt_cons_self.2 hlt
  · rw [List.pairwise_iff_getElem]
    intro i j hi hj hij l hl l' hl'
    rw [List.getElem_mapIdx] at hl hl'
    obtain ⟨_, -, rfl⟩ := List.mem_map.1 hl
    obtain ⟨_, -, rfl⟩ := List.mem_map.1 hl'
    exact List.cons_lt_cons_iff.2 (.inl hij)

theorem inSourceOrder_singleton (l : Leaf) : InSourceOrder [l] := List.pairwise_singleton _ _

theorem Pattern.inSourceOrder_leaves (p : Pattern) : InSourceOrder p.leaves := by
  induction p using Pattern.induction with
  | identifier n => exact inSourceOrder_singleton _
  | array elements ih =>
    rw [leaves_array]
    apply inSourceOrder_leavesBelow
    intro part hpart
    obtain ⟨e, he, rfl⟩ := List.mem_map.1 hpart
    cases e with
    | none => exact .nil
    | some p => exact ih p he
  | object properties ih =>
    rw [leaves_object]
    apply inSourceOrder_leavesBelow
    intro part hpart
    obtain ⟨e, he, rfl⟩ := List.mem_map.1 hpart
    cases e with
    | keyed _ target | rest target => exact ih _ he target rfl
    | shorthand name => exact inSourceOrder_singleton _
  | withDefault target initializer ih => exact ih
  | rest target ih => exact ih

/-! ### Names -/

/-- The names that the pattern binds, from left to right and as often as they occur. -/
def Pattern.boundNames (p : Pattern) : List String := p.leaves.map Prod.snd

/-- The names that an entry of an object pattern binds. -/
def PropertyPattern.boundNames (e : PropertyPattern) : List String := e.leaves.map Prod.snd

theorem names_leavesBelow (parts : List (List Leaf)) :
    (leavesBelow parts).map Prod.snd = parts.flatMap fun part => part.map Prod.snd := by
  have hparts : (parts.mapIdx fun i part => part.map fun l => (i :: l.1, l.2)).map
      (List.map Prod.snd) = parts.map (List.map Prod.snd) := by
    apply List.ext_getElem?
    intro i
    rw [List.getElem?_map, List.getElem?_mapIdx, List.getElem?_map]
    cases parts[i]? <;> simp
  rw [leavesBelow, List.map_flatten, hparts]
  rfl

theorem boundNames_array (elements : List (Option Pattern)) :
    (Pattern.array elements).boundNames =
      elements.flatMap fun e => e.elim [] Pattern.boundNames := by
  rw [Pattern.boundNames, leaves_array, names_leavesBelow, List.flatMap_map]
  congr
  funext e
  cases e <;> rfl

theorem boundNames_object (properties : List PropertyPattern) :
    (Pattern.object properties).boundNames = properties.flatMap PropertyPattern.boundNames := by
  rw [Pattern.boundNames, leaves_object, names_leavesBelow, List.flatMap_map]
  rfl

/-- Going through a pattern adds the names that it binds behind those that are there. -/
theorem Pattern.toList_addBoundNames (p : Pattern) (names : Array String) :
    (p.addBoundNames names).toList = names.toList ++ p.boundNames := by
  induction p using Pattern.induction generalizing names with
  | identifier n => exact Array.toList_push
  | array elements ih =>
    rw [boundNames_array, addBoundNames]
    induction elements generalizing names with
    | nil => simp [addElementNames]
    | cons e elements ihrest =>
      have hrest := fun names => ihrest (fun p hp => ih p (List.mem_cons_of_mem _ hp)) names
      cases e with
      | none => exact hrest names
      | some p =>
        rw [addElementNames, hrest, ih p List.mem_cons_self, List.append_assoc, List.flatMap_cons]
        rfl
  | object properties ih =>
    rw [boundNames_object, addBoundNames]
    induction properties generalizing names with
    | nil => simp [addPropertyNames]
    | cons e properties ihrest =>
      have hrest := fun names => ihrest (fun e he => ih e (List.mem_cons_of_mem _ he)) names
      have htarget := ih e List.mem_cons_self
      cases e with
      | keyed _ target | rest target =>
        rw [addPropertyNames, hrest, htarget target rfl, List.append_assoc, List.flatMap_cons]
        rfl
      | shorthand name =>
        rw [addPropertyNames, hrest, Array.toList_push, List.append_assoc, List.flatMap_cons]
        rfl
  | withDefault target initializer ih => exact ih names
  | rest target ih => exact ih names

/-- The parameters bind what each of them binds, one after the other. -/
theorem FunctionDefinition.parameterNames_eq (d : FunctionDefinition) :
    d.parameterNames = d.params.flatMap Pattern.boundNames := by
  have hfold : ∀ (params : List Pattern) (names : Array String),
      (params.foldl (fun names p => p.addBoundNames names) names).toList =
        names.toList ++ params.flatMap Pattern.boundNames := by
    intro params
    induction params with
    | nil => simp
    | cons p params ih =>
      intro names
      rw [List.foldl_cons, ih, p.toList_addBoundNames, List.append_assoc, List.flatMap_cons]
  exact hfold d.params #[]

/-! ### What binds nothing -/

mutual

/-- The pattern without what binds nothing: there are no holes and no default values, and all keys
are the same. -/
def Pattern.bare : Pattern → Pattern
  | .identifier name => .identifier name
  | .array elements => .array (bareElements elements)
  | .object properties => .object (bareProperties properties)
  | .withDefault target _ => target.bare
  | .rest target => .rest target.bare

def bareElements : List (Option Pattern) → List (Option Pattern)
  | [] => []
  | none :: elements => bareElements elements
  | some element :: elements => some element.bare :: bareElements elements

def bareProperties : List PropertyPattern → List PropertyPattern
  | [] => []
  | .keyed _ target :: properties => .keyed "" target.bare :: bareProperties properties
  | .shorthand name :: properties => .shorthand name :: bareProperties properties
  | .rest target :: properties => .rest target.bare :: bareProperties properties

end

theorem Pattern.boundNames_bare (p : Pattern) : p.bare.boundNames = p.boundNames := by
  induction p using Pattern.induction with
  | identifier name => rfl
  | array elements ih =>
    rw [bare, boundNames_array, boundNames_array]
    induction elements with
    | nil => rfl
    | cons e elements ihrest =>
      have hrest := ihrest fun p hp => ih p (List.mem_cons_of_mem _ hp)
      cases e with
      | none => exact hrest
      | some p =>
        have hp : p.bare.boundNames = p.boundNames := ih p List.mem_cons_self
        rw [bareElements, List.flatMap_cons, List.flatMap_cons, hrest, Option.elim_some, hp]
        rfl
  | object properties ih =>
    rw [bare, boundNames_object, boundNames_object]
    induction properties with
    | nil => rfl
    | cons e properties ihrest =>
      have hrest := ihrest fun e he => ih e (List.mem_cons_of_mem _ he)
      have htarget := ih e List.mem_cons_self
      cases e with
      | keyed _ target | rest target =>
        rw [bareProperties, List.flatMap_cons, List.flatMap_cons, hrest]
        exact congrArg (· ++ _) (htarget target rfl)
      | shorthand name => rw [bareProperties, List.flatMap_cons, List.flatMap_cons, hrest]
  | withDefault target initializer ih => exact ih
  | rest target ih => exact ih

/-- **The names that patterns bind.** Going through a pattern leaves the names that are there and
adds behind them one name for each of its leaves, in the order of the source text and as often as it
occurs. Holes, keys and default values, whatever is in them, add nothing. What the parameters of a
function bind is what each of them binds, so for two lists of parameters together it is what the one
binds and then what the other binds. -/
theorem bound_names_are_the_leaves (p : Pattern) (names : Array String) (d : FunctionDefinition)
    (params more : List Pattern) :
    (p.addBoundNames names).toList = names.toList ++ p.leaves.map Prod.snd ∧
      (p.leaves.Pairwise fun l l' => l.1 < l'.1) ∧
      (∀ path name, (path, name) ∈ p.leaves ↔ p.BindsAt path name) ∧
      p.bare.addBoundNames names = p.addBoundNames names ∧
      d.parameterNames = d.params.flatMap (fun q => q.leaves.map Prod.snd) ∧
      { d with params := params ++ more }.parameterNames =
        { d with params }.parameterNames ++ { d with params := more }.parameterNames := by
  refine ⟨p.toList_addBoundNames names, p.inSourceOrder_leaves, fun path name => p.mem_leaves_iff,
    ?_, d.parameterNames_eq, ?_⟩
  · apply Array.toList_inj.1
    rw [Pattern.toList_addBoundNames, Pattern.toList_addBoundNames, Pattern.boundNames_bare]
  · simp only [FunctionDefinition.parameterNames_eq, List.flatMap_append]

/-- In `[a, , {b: c, a} = b, ...d]` neither the key nor the default value is bound. -/
example : (Pattern.array [some (.identifier "a"), none,
      some (.withDefault (.object [.keyed "b" (.identifier "c"), .shorthand "a"])
        (.identifier "b")),
      some (.rest (.identifier "d"))]).addBoundNames #["x"] = #["x", "a", "c", "a", "d"] := by
  decide

end FunctionObjects
