import FunctionObjects.CommandLine.Parameter
import Mathlib.Logic.ExistsUnique

/-!
# Reading what was written

A parameter is written with at most one mark: three dots before its name, or an equals sign behind
it. Of ASCII a name has only letters, digits, `_` and `$`, whatever the alphabet is, since an
alphabet is not asked about ASCII. So neither mark can be taken for a part of a name, and those that
are taken off a text are those that were put on the name.
-/

namespace FunctionObjects

/-! ### What a name is made of -/

namespace Alphabet

variable {a : Alphabet} {s : String} {c : Char}

/-- Of ASCII there are only letters, digits, `_` and `$` in a name. -/
theorem narrow_of_isName (h : a.isName s = true) (hmem : c ∈ s.toList) (hc : isWide c = false) :
    c.isAlphanum = true ∨ c = '_' ∨ c = '$' := by
  have hstart : a.isStart c = true → c.isAlphanum = true ∨ c = '_' ∨ c = '$' := by
    simp only [isStart, hc, Char.isAlphanum, Bool.or_eq_true, beq_iff_eq, Bool.false_and,
      Bool.false_eq_true, or_false]
    rintro ((hc' | hc') | hc') <;> simp [hc']
  have hpart : a.isPart c = true → c.isAlphanum = true ∨ c = '_' ∨ c = '$' := by
    simp only [isPart, hc, Bool.or_eq_true, beq_iff_eq, Bool.false_and, Bool.false_eq_true,
      or_false]
    rintro ((hc' | hc') | hc') <;> simp [hc']
  unfold isName isNameChars at h
  cases hs : s.toList with
  | nil =>
    rw [hs] at hmem
    cases hmem
  | cons first rest =>
    rw [hs] at h hmem
    simp only [Bool.and_eq_true, List.all_eq_true] at h
    rcases List.mem_cons.1 hmem with rfl | hrest
    · exact hstart h.1
    · exact hpart (h.2 c hrest)

theorem dot_not_mem_of_isName (h : a.isName s = true) : '.' ∉ s.toList := fun hmem =>
  absurd (narrow_of_isName h hmem (by decide)) (by decide)

theorem equals_not_mem_of_isName (h : a.isName s = true) : '=' ∉ s.toList := fun hmem =>
  absurd (narrow_of_isName h hmem (by decide)) (by decide)

/-- The written forms of parameters, with the patterns that they stand for. -/
inductive Writes (a : Alphabet) : Pattern → String → Prop
  | plain (name : String) : a.isName name = true → Writes a (.identifier name) name
  | withDefault (name : String) : a.isName name = true →
      Writes a (.withDefault (.identifier name) (.literal .null)) (name ++ "=")
  | rest (name : String) : a.isName name = true →
      Writes a (.rest (.identifier name)) ("..." ++ name)

end Alphabet

namespace CommandLine

/-! ### Marks -/

section

variable {cs rest name : List Char} {isRest hasDefault : Bool}

/-- What is taken off are three dots, if anything. -/
theorem eq_of_splitDots (h : splitDots cs = (isRest, rest)) :
    cs = (if isRest then ['.', '.', '.'] else []) ++ rest := by
  unfold splitDots at h
  split at h <;> cases h <;> rfl

/-- What is taken off is an equals sign, if anything. -/
theorem eq_of_splitEquals (h : splitEquals cs = (hasDefault, name)) :
    cs = name ++ if hasDefault then ['='] else [] := by
  unfold splitEquals at h
  split at h
  · next hlast =>
    obtain ⟨before, rfl⟩ := List.getLast?_eq_some_iff.1 hlast
    cases h
    rw [List.dropLast_concat]
    rfl
  · cases h
    exact (List.append_nil cs).symm

theorem splitDots_of_not_mem (h : '.' ∉ cs) : splitDots cs = (false, cs) := by
  unfold splitDots
  split
  · simp at h
  · rfl

theorem splitEquals_of_not_mem (h : '=' ∉ cs) : splitEquals cs = (false, cs) :=
  if_neg fun hlast => h (List.mem_of_getLast? hlast)

theorem splitEquals_append (cs : List Char) : splitEquals (cs ++ ['=']) = (true, cs) := by
  rw [splitEquals, List.getLast?_concat, if_pos rfl, List.dropLast_concat]

end

/-! ### Reading -/

namespace Parameter

variable {a : Alphabet} {p : Parameter} {t : String}

/-- The parameter with a name and the marks that were found. -/
def ofMarks (name : String) : (isRest hasDefault : Bool) → Except RequestError Parameter
  | true, true => .error (.restWithDefault name)
  | true, false => .ok ⟨name, .rest⟩
  | false, true => .ok ⟨name, .withDefault⟩
  | false, false => .ok ⟨name, .plain⟩

/-- With a name that may stand, the marks decide. -/
theorem parseIn_of_split {cs : List Char} {isRest hasDefault : Bool} {name : String}
    (hname : a.isName name = true) (hdots : splitDots t.toList = (isRest, cs))
    (hequals : splitEquals cs = (hasDefault, name.toList)) :
    parseIn a t = ofMarks name isRest hasDefault := by
  simp only [parseIn, hdots, hequals, String.ofList_toList, hname, Bool.not_true,
    Bool.false_eq_true, if_false]
  cases isRest <;> cases hasDefault <;> rfl

/-- What is written is read as it was meant. -/
theorem parseIn_text (h : a.isName p.name = true) : parseIn a p.text = .ok p := by
  obtain ⟨name, form⟩ := p
  have hdot : '.' ∉ name.toList := Alphabet.dot_not_mem_of_isName h
  have hequals : '=' ∉ name.toList := Alphabet.equals_not_mem_of_isName h
  cases form with
  | plain =>
    exact parseIn_of_split h (splitDots_of_not_mem hdot) (splitEquals_of_not_mem hequals)
  | withDefault =>
    have hdots : splitDots (name ++ "=").toList = (false, name.toList ++ ['=']) := by
      rw [String.toList_append]
      exact splitDots_of_not_mem (by simpa using hdot)
    exact parseIn_of_split h hdots (splitEquals_append _)
  | rest =>
    have hdots : splitDots ("..." ++ name).toList = (true, name.toList) := by
      rw [String.toList_append]
      rfl
    exact parseIn_of_split h hdots (splitEquals_of_not_mem hequals)

/-- What is read was written. -/
theorem text_of_parseIn (h : parseIn a t = .ok p) : a.isName p.name = true ∧ p.text = t := by
  obtain ⟨⟨isRest, cs⟩, hdots⟩ : ∃ split, splitDots t.toList = split := ⟨_, rfl⟩
  obtain ⟨⟨hasDefault, left⟩, hequals⟩ : ∃ split, splitEquals cs = split := ⟨_, rfl⟩
  obtain ⟨name, rfl⟩ : ∃ name : String, left = name.toList :=
    ⟨String.ofList left, String.toList_ofList.symm⟩
  cases hname : a.isName name with
  | false =>
    simp only [parseIn, hdots, hequals, String.ofList_toList, hname] at h
    cases h
  | true =>
    rw [parseIn_of_split hname hdots hequals] at h
    have htext : t.toList = (if isRest then ['.', '.', '.'] else []) ++
        (name.toList ++ if hasDefault then ['='] else []) := by
      rw [eq_of_splitDots hdots, eq_of_splitEquals hequals]
    -- both marks at once are refused, and what is left of the marks tells the form
    cases isRest <;> cases hasDefault <;> cases h <;> refine ⟨hname, String.ext ?_⟩ <;>
      rw [htext] <;> simp [text]

/-- A text is read as a parameter if and only if it is what is written for it. -/
theorem parseIn_eq_ok_iff : parseIn a t = .ok p ↔ a.isName p.name = true ∧ p.text = t := by
  refine ⟨text_of_parseIn, ?_⟩
  rintro ⟨hname, rfl⟩
  exact parseIn_text hname

/-- A pattern is written as the parameter that it comes from. -/
theorem writes_iff {pattern : Pattern} :
    a.Writes pattern t ↔ ∃ p, parseIn a t = .ok p ∧ p.toPattern = pattern := by
  simp only [parseIn_eq_ok_iff]
  constructor
  · intro h
    cases h with
    | plain _ hn => exact ⟨⟨t, .plain⟩, ⟨hn, rfl⟩, rfl⟩
    | withDefault n hn => exact ⟨⟨n, .withDefault⟩, ⟨hn, rfl⟩, rfl⟩
    | rest n hn => exact ⟨⟨n, .rest⟩, ⟨hn, rfl⟩, rfl⟩
  · rintro ⟨⟨name, form⟩, ⟨hname, rfl⟩, rfl⟩
    cases form with
    | plain => exact .plain name hname
    | withDefault => exact .withDefault name hname
    | rest => exact .rest name hname

/-- **Reading a parameter is the inverse of writing it.** By any alphabet, a text is read exactly if
it is a name, a name with an equals sign behind it or a name with three dots before it, and the name
and the form are the only ones with which it could have been written. The pattern that results is
the one that is written so. All other texts are refused, among them those with a dot, a blank or an
equals sign elsewhere, since what is left as a name is not empty and of ASCII has only letters,
digits, `_` and `$`. -/
theorem reading_inverts_writing (a : Alphabet) (t : String) :
    (∀ p, parseIn a t = .ok p ↔ a.isName p.name = true ∧ p.text = t) ∧
      ((∃ p, parseIn a t = .ok p) ↔ ∃! p : Parameter, a.isName p.name = true ∧ p.text = t) ∧
      (∀ pattern, (parseIn a t).map toPattern = .ok pattern ↔ a.Writes pattern t) ∧
      ∀ p, parseIn a t = .ok p → p.name ≠ "" ∧
        ∀ c ∈ p.name.toList, Alphabet.isWide c = false →
          c.isAlphanum = true ∨ c = '_' ∨ c = '$' := by
  refine ⟨fun p => parseIn_eq_ok_iff, ?_, fun pattern => ?_, fun p hp => ?_⟩
  · constructor
    · rintro ⟨p, hp⟩
      refine ⟨p, parseIn_eq_ok_iff.1 hp, fun q hq => ?_⟩
      exact Except.ok.inj ((parseIn_eq_ok_iff.2 hq).symm.trans hp)
    · rintro ⟨p, hp, -⟩
      exact ⟨p, parseIn_eq_ok_iff.2 hp⟩
  · rw [writes_iff]
    cases hparse : parseIn a t <;> simp [Except.map]
  · have hname := (parseIn_eq_ok_iff.1 hp).1
    refine ⟨?_, fun c hmem hc => Alphabet.narrow_of_isName hname hmem hc⟩
    intro hempty
    rw [hempty] at hname
    cases hname

/-- Each form is read, and what has no form is refused. -/
theorem reading_inverts_writing_forms :
    parseIn .unicode "x1" = .ok ⟨"x1", .plain⟩ ∧
      parseIn .unicode "été=" = .ok ⟨"été", .withDefault⟩ ∧
      parseIn .unicode "...$r" = .ok ⟨"$r", .rest⟩ ∧
      ∀ t ∈ ["", "...", "=", "a==", "......a", "...n=", "a b", "a.b", "1x"],
        ¬ ∃ pattern, Alphabet.unicode.Writes pattern t := by
  have hread := fun t => (reading_inverts_writing .unicode t).1
  have hwrites := fun t => (reading_inverts_writing .unicode t).2.2.1
  refine ⟨(hread _ _).2 ⟨by decide +kernel, rfl⟩, (hread _ _).2 ⟨by decide +kernel, rfl⟩,
    (hread _ _).2 ⟨by decide +kernel, rfl⟩, ?_⟩
  have hrefused : ∀ t ∈ ["", "...", "=", "a==", "......a", "...n=", "a b", "a.b", "1x"],
      (parseIn .unicode t).isOk = false := by
    decide +kernel
  rintro t ht ⟨pattern, hpattern⟩
  rw [← hwrites] at hpattern
  have hok := hrefused t ht
  cases hparse : parseIn .unicode t with
  | error e =>
    rw [hparse] at hpattern
    cases hpattern
  | ok p =>
    rw [hparse] at hok
    cases hok

end Parameter

end CommandLine

end FunctionObjects
