import FunctionObjects.CommandLine.Request
import FunctionObjects.Proofs.CommandLine.Parameter
import FunctionObjects.Proofs.Moves
import FunctionObjects.Proofs.Syntax.BoundNames

/-!
# Which requests are met

A request is well-formed if its function is named as a function may be, each of its parameters can
be read and only the last one is a rest parameter. Those are met, and the definition that is made
says what was asked for. Of everything that may be wrong with another one, it is the first thing
that is reported: the name of the function comes before the parameters, these are taken from left to
right, and their order is looked at last (`Arguments.Answers`).
-/

namespace FunctionObjects.CommandLine

/-! ### The definition that is asked for -/

namespace Arguments

variable {alphabet : Alphabet} {a : Arguments}

def speciesOrDefault (a : Arguments) : Species := a.species.getD .ordinary

/-- The definition with the given parameters. -/
def toDefinition (a : Arguments) (params : List Parameter) : FunctionDefinition :=
  .ofParts 0 a.name (params.map Parameter.toPattern) a.body a.speciesOrDefault

/-- With a name that may stand, or none, the parameters decide. -/
theorem definition_of_isName (hn : ∀ name ∈ a.name, alphabet.isName name = true) :
    a.definitionIn alphabet = (a.parametersIn alphabet).map a.toDefinition := by
  have hparameters : (a.parametersIn alphabet >>= fun params => pure (a.toDefinition params)) =
      (a.parametersIn alphabet).map a.toDefinition := by
    cases a.parametersIn alphabet <;> rfl
  rw [← hparameters, definitionIn]
  cases hname : a.name with
  | none => simp only [toDefinition, hname, speciesOrDefault]
  | some name =>
    have hvalid := hn name hname
    simp only [toDefinition, hname, hvalid, speciesOrDefault, Bool.not_true, Bool.false_eq_true,
      if_false]

/-- Any other name is refused, whatever the parameters are. -/
theorem definition_of_not_isName {name : String} (hname : a.name = some name)
    (hn : alphabet.isName name = false) :
    a.definitionIn alphabet = .error (.invalidFunctionName name) := by
  rw [definitionIn, hname]
  simp only [hn, Bool.not_false, if_true]
  rfl

/-- What is accepted has parameters, and from these it is made. -/
theorem exists_parameters {d : FunctionDefinition} (hd : a.definitionIn alphabet = .ok d) :
    ∃ params, a.parametersIn alphabet = .ok params ∧ d = a.toDefinition params := by
  by_cases hn : ∀ name ∈ a.name, alphabet.isName name = true
  · rw [definition_of_isName hn] at hd
    cases hp : a.parametersIn alphabet with
    | error e =>
      rw [hp] at hd
      cases hd
    | ok params =>
      rw [hp] at hd
      cases hd
      exact ⟨params, rfl, rfl⟩
  · obtain ⟨name, hn⟩ := Classical.not_forall.1 hn
    obtain ⟨hname, hn⟩ := Classical.not_imp.1 hn
    rw [definition_of_not_isName hname (Bool.eq_false_iff.2 hn)] at hd
    cases hd

/-- The body is strict if that was asked for. -/
theorem isStrictBody_body (a : Arguments) : isStrictBody a.body = a.strict := by
  unfold Arguments.body
  cases a.strict <;> rfl

end Arguments

/-- A parameter ends the count of expected arguments unless it is a mere name. -/
theorem Parameter.endsCount_toPattern (p : Parameter) :
    p.toPattern.endsCount = !(p.form == .plain) := by
  obtain ⟨name, form⟩ := p
  cases form <;> rfl

/-- The arguments that a function expects are its parameters up to the first that is no mere name.
-/
theorem Arguments.expectedArgumentCount_toDefinition (a : Arguments) (params : List Parameter) :
    (a.toDefinition params).expectedArgumentCount =
      (params.takeWhile fun p => p.form == .plain).length := by
  show ((params.map Parameter.toPattern).takeWhile fun p => !p.endsCount).length = _
  induction params with
  | nil => rfl
  | cons p params ih =>
    rw [List.map_cons, List.takeWhile_cons, List.takeWhile_cons, Parameter.endsCount_toPattern,
      Bool.not_not]
    split
    · rw [List.length_cons, List.length_cons, ih]
    · rfl

/-! ### Reading all parameters -/

section

variable {α β ε : Type} {f : α → Except ε β}

/-- A list is read if each of its members is, and the results are in the same order. -/
theorem mapM_eq_ok_iff {l : List α} {r : List β} : l.mapM f = .ok r ↔ l.map f = r.map .ok := by
  induction l generalizing r with
  | nil => cases r <;> simp [pure, Except.pure]
  | cons x l ih =>
    rw [List.mapM_cons]
    cases hx : f x with
    | error e => cases r <;> simp [bind, Except.bind, hx]
    | ok y =>
      cases hl : l.mapM f with
      | error e => cases r <;> simp [bind, Except.bind, hx, ← ih, hl]
      | ok ys => cases r <;> simp [bind, Except.bind, pure, Except.pure, hx, ← ih, hl]

/-- If a list is not read, it is for the first member that is not. -/
theorem exists_of_mapM_eq_error {l : List α} {e : ε} (h : l.mapM f = .error e) :
    ∃ before x after, l = before ++ x :: after ∧ (∀ y ∈ before, ∃ b, f y = .ok b) ∧
      f x = .error e := by
  induction l with
  | nil => cases h
  | cons x l ih =>
    rw [List.mapM_cons] at h
    cases hx : f x with
    | error e' =>
      rw [hx] at h
      cases h
      exact ⟨[], x, l, rfl, by simp, hx⟩
    | ok y =>
      rw [hx] at h
      cases hl : l.mapM f with
      | error e' =>
        rw [hl] at h
        cases h
        obtain ⟨before, z, after, rfl, hbefore, hz⟩ := ih hl
        exact ⟨x :: before, z, after, rfl, by simpa [hx] using hbefore, hz⟩
      | ok ys =>
        rw [hl] at h
        cases h

/-- The first member that is not read decides. -/
theorem mapM_of_first {before after : List α} {x : α} {e : ε}
    (hbefore : ∀ y ∈ before, ∃ b, f y = .ok b) (hx : f x = .error e) :
    (before ++ x :: after).mapM f = .error e := by
  induction before with
  | nil =>
    rw [List.nil_append, List.mapM_cons, hx]
    rfl
  | cons y before ih =>
    obtain ⟨b, hb⟩ := hbefore y List.mem_cons_self
    have hrest := ih fun z hz => hbefore z (List.mem_cons_of_mem y hz)
    rw [List.cons_append, List.mapM_cons, hb, hrest]
    rfl

end

/-- What `any` finds before the last member. -/
theorem any_dropLast_iff {α : Type} {P : α → Bool} {l : List α} :
    l.dropLast.any P = true ↔ ∃ i x, l[i]? = some x ∧ P x = true ∧ i + 1 < l.length := by
  simp only [List.any_eq_true, List.mem_iff_getElem?, List.getElem?_dropLast]
  constructor
  · rintro ⟨x, ⟨i, hi⟩, hx⟩
    split at hi
    · next hlt => exact ⟨i, x, hi, hx, by omega⟩
    · cases hi
  · rintro ⟨i, x, hi, hx, hlt⟩
    exact ⟨x, ⟨i, by rw [if_pos (by omega), hi]⟩, hx⟩

namespace Arguments

variable {alphabet : Alphabet} {a : Arguments} {params : List Parameter}

/-- Where a parameter stands that was read, there stands its text. -/
theorem getElem?_of_map_parse (h : a.params.map (Parameter.parseIn alphabet) = params.map .ok)
    {i : Nat} {p : Parameter} :
    params[i]? = some p ↔
      ∃ text, a.params[i]? = some text ∧ Parameter.parseIn alphabet text = .ok p := by
  have hi : (a.params[i]?).map (Parameter.parseIn alphabet) = (params[i]?).map .ok := by
    rw [← List.getElem?_map, ← List.getElem?_map, h]
  constructor
  · intro hp
    rw [hp] at hi
    obtain ⟨text, htext, hparse⟩ := Option.map_eq_some_iff.1 hi
    exact ⟨text, htext, hparse⟩
  · rintro ⟨text, htext, hparse⟩
    rw [htext, Option.map_some, hparse] at hi
    obtain ⟨q, hq, hok⟩ := Option.map_eq_some_iff.1 hi.symm
    rw [hq, Except.ok.inj hok]

/-! ### What a request is answered -/

/-- The name of the function may stand, or there is none. -/
def NameStands (alphabet : Alphabet) (a : Arguments) : Prop :=
  ∀ name ∈ a.name, alphabet.isName name = true

/-- What a request must be to be met. -/
structure WellFormed (alphabet : Alphabet) (a : Arguments) : Prop where
  name : a.NameStands alphabet
  params : ∀ text ∈ a.params, ∃ p, Parameter.parseIn alphabet text = .ok p
  restLast : ∀ (i : Nat) text name, a.params[i]? = some text →
    Parameter.parseIn alphabet text = .ok ⟨name, .rest⟩ → i + 1 = a.params.length

/-- The answers to a request. -/
inductive Answers (alphabet : Alphabet) (a : Arguments) :
    Except RequestError FunctionDefinition → Prop
  /-- The name is looked at first. -/
  | badName (name : String) : a.name = some name → alphabet.isName name = false →
      Answers alphabet a (.error (.invalidFunctionName name))
  /-- The leftmost of the parameters that cannot be read is reported. -/
  | badParameter (before : List String) (text : String) (after : List String) (e : RequestError) :
      a.NameStands alphabet → a.params = before ++ text :: after →
      (∀ t ∈ before, ∃ p, Parameter.parseIn alphabet t = .ok p) →
      Parameter.parseIn alphabet text = .error e → Answers alphabet a (.error e)
  /-- All can be read, and a rest parameter is followed by another parameter. -/
  | restNotLast (i : Nat) (text name : String) : a.NameStands alphabet →
      (∀ t ∈ a.params, ∃ p, Parameter.parseIn alphabet t = .ok p) →
      a.params[i]? = some text → Parameter.parseIn alphabet text = .ok ⟨name, .rest⟩ →
      i + 1 < a.params.length →
      Answers alphabet a (.error .restNotLast)
  /-- The definition is made of the parameters as they were read. -/
  | made (params : List Parameter) : a.WellFormed alphabet →
      a.params.map (Parameter.parseIn alphabet) = params.map .ok →
      Answers alphabet a (.ok (a.toDefinition params))

/-- Parameters that can be read have been read. -/
theorem exists_map_parse (h : ∀ text ∈ a.params, ∃ p, Parameter.parseIn alphabet text = .ok p) :
    ∃ params : List Parameter, a.params.map (Parameter.parseIn alphabet) = params.map .ok := by
  cases hread : a.params.mapM (Parameter.parseIn alphabet) with
  | ok params => exact ⟨params, mapM_eq_ok_iff.1 hread⟩
  | error e =>
    obtain ⟨before, text, after, hparams, -, he⟩ := exists_of_mapM_eq_error hread
    obtain ⟨p, hp⟩ := h text (by simp [hparams])
    cases hp.symm.trans he

theorem forall_mem_of_map_parse (h : a.params.map (Parameter.parseIn alphabet) = params.map .ok) :
    ∀ text ∈ a.params, ∃ p, Parameter.parseIn alphabet text = .ok p := by
  intro text htext
  have hmem : Parameter.parseIn alphabet text ∈ a.params.map (Parameter.parseIn alphabet) :=
    List.mem_map_of_mem htext
  rw [h] at hmem
  obtain ⟨p, -, hp⟩ := List.mem_map.1 hmem
  exact ⟨p, hp.symm⟩

/-- What has been read is looked through for a rest parameter before the last position. -/
theorem parameters_of_map_parse (h : a.params.map (Parameter.parseIn alphabet) = params.map .ok) :
    a.parametersIn alphabet =
      if params.dropLast.any (fun p => p.form == .rest) then .error .restNotLast
      else .ok params := by
  rw [parametersIn, mapM_eq_ok_iff.2 h]
  rfl

/-- There is one if and only if its text is before the last position. -/
theorem any_rest_iff (h : a.params.map (Parameter.parseIn alphabet) = params.map .ok) :
    params.dropLast.any (fun p => p.form == .rest) = true ↔
      ∃ i text name, a.params[i]? = some text ∧
        Parameter.parseIn alphabet text = .ok ⟨name, .rest⟩ ∧ i + 1 < a.params.length := by
  have hlength : a.params.length = params.length := by simpa using congrArg List.length h
  rw [any_dropLast_iff, hlength]
  constructor
  · rintro ⟨i, ⟨name, form⟩, hi, hform, hlt⟩
    obtain rfl : form = .rest := beq_iff_eq.1 hform
    obtain ⟨text, htext, hparse⟩ := (getElem?_of_map_parse h).1 hi
    exact ⟨i, text, name, htext, hparse, hlt⟩
  · rintro ⟨i, text, name, htext, hparse, hlt⟩
    exact ⟨i, ⟨name, .rest⟩, (getElem?_of_map_parse h).2 ⟨text, htext, hparse⟩, rfl, hlt⟩

theorem Answers.definition_eq {result : Except RequestError FunctionDefinition}
    (h : a.Answers alphabet result) : a.definitionIn alphabet = result := by
  cases h with
  | badName name hname hn => exact definition_of_not_isName hname hn
  | badParameter before text after e hn hparams hbefore he =>
    have hparameters : a.parametersIn alphabet = .error e := by
      rw [parametersIn, hparams, mapM_of_first hbefore he]
      rfl
    rw [definition_of_isName hn, hparameters]
    rfl
  | restNotLast i text name hn hread htext hparse hlt =>
    obtain ⟨params, hparams⟩ := exists_map_parse hread
    rw [definition_of_isName hn, parameters_of_map_parse hparams,
      if_pos ((any_rest_iff hparams).2 ⟨i, text, name, htext, hparse, hlt⟩)]
    rfl
  | made params hwell hparams =>
    have hlast : ¬ params.dropLast.any (fun p => p.form == .rest) = true := by
      rw [any_rest_iff hparams]
      rintro ⟨i, text, name, htext, hparse, hlt⟩
      exact absurd (hwell.restLast i text name htext hparse) (Nat.ne_of_lt hlt)
    rw [definition_of_isName hwell.name, parameters_of_map_parse hparams, if_neg hlast]
    rfl

/-- Every request has an answer. -/
theorem exists_answers (alphabet : Alphabet) (a : Arguments) :
    ∃ result, a.Answers alphabet result := by
  by_cases hn : a.NameStands alphabet
  · cases hread : a.params.mapM (Parameter.parseIn alphabet) with
    | error e =>
      obtain ⟨before, text, after, hparams, hbefore, he⟩ := exists_of_mapM_eq_error hread
      exact ⟨_, .badParameter before text after e hn hparams hbefore he⟩
    | ok params =>
      have hparams := mapM_eq_ok_iff.1 hread
      have hall := forall_mem_of_map_parse hparams
      by_cases hrest : ∃ i text name, a.params[i]? = some text ∧
          Parameter.parseIn alphabet text = .ok ⟨name, .rest⟩ ∧ i + 1 < a.params.length
      · obtain ⟨i, text, name, htext, hparse, hlt⟩ := hrest
        exact ⟨_, .restNotLast i text name hn hall htext hparse hlt⟩
      · refine ⟨_, .made params ⟨hn, hall, fun i text name htext hparse => ?_⟩ hparams⟩
        obtain ⟨hlt, -⟩ := List.getElem?_eq_some_iff.1 htext
        rcases Nat.eq_or_lt_of_le (Nat.succ_le_of_lt hlt) with hlast | hbefore
        · exact hlast
        · exact absurd ⟨i, text, name, htext, hparse, hbefore⟩ hrest
  · obtain ⟨name, hn⟩ := Classical.not_forall.1 hn
    obtain ⟨hname, hn⟩ := Classical.not_imp.1 hn
    exact ⟨_, .badName name hname (Bool.eq_false_iff.2 hn)⟩

theorem definition_eq_iff {result : Except RequestError FunctionDefinition} :
    a.definitionIn alphabet = result ↔ a.Answers alphabet result :=
  eq_iff_of_rule (a.exists_answers alphabet) (fun _ => Answers.definition_eq) result

end Arguments

/-! ### What the definition says -/

/-- A parameter is written with a mark: three dots before it, or an equals sign behind it. -/
def isMarked (text : String) : Bool :=
  ['.', '.', '.'].isPrefixOf text.toList || text.toList.getLast? == some '='

/-- The parameters with a mark are those that end the count of expected arguments. -/
theorem isMarked_of_parse {alphabet : Alphabet} {text : String} {p : Parameter}
    (h : Parameter.parseIn alphabet text = .ok p) : isMarked text = p.toPattern.endsCount := by
  obtain ⟨hname, rfl⟩ := Parameter.text_of_parseIn h
  obtain ⟨name, form⟩ := p
  cases form with
  | plain =>
    have hdots : ['.', '.', '.'].isPrefixOf name.toList = false := by
      rw [Bool.eq_false_iff, ne_eq, List.isPrefixOf_iff_prefix]
      exact fun hdots => Alphabet.dot_not_mem_of_isName hname (hdots.subset (by simp))
    have hequals : name.toList.getLast? ≠ some '=' := fun hlast =>
      Alphabet.equals_not_mem_of_isName hname (List.mem_of_getLast? hlast)
    show isMarked name = false
    simp [isMarked, hdots, hequals]
  | withDefault =>
    show isMarked (name ++ "=") = true
    simp [isMarked]
  | rest =>
    show isMarked ("..." ++ name) = true
    simp [isMarked, String.toList_append]

/-- A parameter binds its name. -/
theorem Parameter.boundNames_toPattern (p : Parameter) : p.toPattern.boundNames = [p.name] := by
  obtain ⟨name, form⟩ := p
  cases form <;> rfl

namespace Arguments

variable {alphabet : Alphabet} {a : Arguments} {params : List Parameter} {d : FunctionDefinition}

/-- The names that the parameters bind are their names, in order. -/
theorem parameterNames_toDefinition (a : Arguments) (params : List Parameter) :
    (a.toDefinition params).parameterNames = params.map Parameter.name := by
  rw [FunctionDefinition.parameterNames_eq]
  show (params.map Parameter.toPattern).flatMap Pattern.boundNames = _
  rw [List.flatMap_map, List.map_eq_flatMap]
  simp only [Parameter.boundNames_toPattern]

/-- The count of expected arguments ends at the first text with a mark. -/
theorem findIdx_isMarked {texts : List String}
    (h : texts.map (Parameter.parseIn alphabet) = params.map .ok) :
    texts.findIdx isMarked = (params.map Parameter.toPattern).findIdx Pattern.endsCount := by
  induction texts generalizing params with
  | nil =>
    obtain rfl := List.map_eq_nil_iff.1 h.symm
    rfl
  | cons text texts ih =>
    obtain ⟨p, params, rfl, hp, hrest⟩ := List.map_eq_cons_iff.1 h.symm
    rw [List.map_cons, List.findIdx_cons, List.findIdx_cons, isMarked_of_parse hp.symm,
      ih hrest.symm]

/-- The definition says what was asked for. -/
structure DescribedBy (alphabet : Alphabet) (a : Arguments) (d : FunctionDefinition) : Prop where
  name : d.name = a.name
  params : ∃ params : List Parameter, a.params.map (Parameter.parseIn alphabet) = params.map .ok ∧
    d.params = params.map Parameter.toPattern ∧ d.parameterNames = params.map Parameter.name
  species : d.species = a.speciesOrDefault
  strict : d.strict = a.strict
  expectedArgumentCount : d.expectedArgumentCount = a.params.findIdx isMarked

theorem describedBy_toDefinition (h : a.params.map (Parameter.parseIn alphabet) = params.map .ok) :
    a.DescribedBy alphabet (a.toDefinition params) where
  name := rfl
  params := ⟨params, h, rfl, a.parameterNames_toDefinition params⟩
  species := rfl
  strict := a.isStrictBody_body
  expectedArgumentCount := by
    rw [FunctionDefinition.expectedArgumentCount_eq_findIdx, findIdx_isMarked h]
    rfl

/-- **Exactly the well-formed requests are met.** Whatever alphabet says which names may stand, a
request is answered by the rule and not otherwise: with a definition if and only if it is
well-formed, and else with the first thing that is wrong. The definition has the name and the
species that were asked for and the parameters as they were read, in order and as often as they were
given. It is strict if that was asked for, and whether the code around it is strict does not matter.
The arguments that it expects are those before the first parameter that is written with a mark. -/
theorem requests_met_by_rule (alphabet : Alphabet) (a : Arguments) :
    (∀ result, a.definitionIn alphabet = result ↔ a.Answers alphabet result) ∧
      ((∃ d, a.definitionIn alphabet = .ok d) ↔ a.WellFormed alphabet) ∧
      (∀ d, a.definitionIn alphabet = .ok d → a.DescribedBy alphabet d) ∧
      ∀ scriptStrict, { a with scriptStrict }.definitionIn alphabet = a.definitionIn alphabet := by
  refine ⟨fun result => definition_eq_iff, ?_, fun d hd => ?_, fun scriptStrict => rfl⟩
  · constructor
    · rintro ⟨d, hd⟩
      cases definition_eq_iff.1 hd with
      | made params hwell hparams => exact hwell
    · intro hwell
      obtain ⟨params, hparams⟩ := exists_map_parse hwell.params
      exact ⟨_, definition_eq_iff.2 (.made params hwell hparams)⟩
  · cases definition_eq_iff.1 hd with
    | made params hwell hparams => exact describedBy_toDefinition hparams

/-- A strict generator function with a parameter that is repeated, and three requests with more than
one thing wrong. -/
theorem requests_met_by_rule_first :
    let a : Arguments :=
      { name := some "g", species := some .generator, params := ["a", "b=", "a", "...c"],
        strict := true }
    (∃ d, a.definition = .ok d ∧ d.species = .generator ∧ d.strict = true ∧
        d.parameterNames = ["a", "b", "a", "c"] ∧ d.expectedArgumentCount = 1) ∧
      { a with name := some "no way", params := ["1x"] }.definition =
        .error (.invalidFunctionName "no way") ∧
      { a with params := ["...c", "1x", "...d=", "d"] }.definition =
        .error (.invalidParameterName "1x") ∧
      { a with params := ["...c", "d"] }.definition = .error .restNotLast := by
  intro a
  have hname : a.NameStands .unicode := by
    rintro _ ⟨⟩
    decide +kernel
  have hd : a.definition = .ok (a.toDefinition
      [⟨"a", .plain⟩, ⟨"b", .withDefault⟩, ⟨"a", .plain⟩, ⟨"c", .rest⟩]) := rfl
  have hread : ∀ text ∈ ["...c", "d"], ∃ p, Parameter.parseIn .unicode text = .ok p := by
    rw [List.forall_mem_cons, List.forall_mem_singleton]
    exact ⟨⟨⟨"c", .rest⟩, rfl⟩, ⟨⟨"d", .plain⟩, rfl⟩⟩
  obtain ⟨-, -, hdescribed, -⟩ := requests_met_by_rule .unicode a
  have hcount : a.params.findIdx isMarked = 1 := by decide +kernel
  refine ⟨⟨_, hd, (hdescribed _ hd).species, (hdescribed _ hd).strict, rfl,
    (hdescribed _ hd).expectedArgumentCount.trans hcount⟩, ?_, ?_, ?_⟩
  · exact ((requests_met_by_rule .unicode _).1 _).2 (.badName "no way" rfl (by decide +kernel))
  · refine ((requests_met_by_rule .unicode _).1 _).2
      (.badParameter ["...c"] "1x" ["...d=", "d"] _ hname rfl ?_ rfl)
    rw [List.forall_mem_singleton]
    exact ⟨⟨"c", .rest⟩, rfl⟩
  · exact ((requests_met_by_rule .unicode _).1 _).2
      (.restNotLast 0 "...c" "c" hname hread rfl rfl (by decide))

end Arguments

end FunctionObjects.CommandLine
