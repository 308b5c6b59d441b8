import FunctionObjects.Proofs.Text.Surrogates

/-!
# Concatenation and the text of it

Texts that are put together are encoded part by part. The other way round that is not so: units are
put together unit by unit, and where the first part ends with a high surrogate and the second one
begins with a low one, the two make a pair that neither part had. This is the only way in which two
parts can be read otherwise together than apart (`Utf16.decode_append`), and then they are always
read otherwise, since two characters have become one.
-/

namespace FunctionObjects

namespace Utf16

variable {u v : UInt16} {a b rest : List UInt16}

/-- Whether the last unit is a high surrogate. -/
def endsHigh (units : List UInt16) : Bool := units.getLast?.any isHigh

/-- Whether the first unit is a low surrogate. -/
def beginsLow (units : List UInt16) : Bool := units.head?.any isLow

/-! ### How single surrogates are read -/

theorem decode_high (hu : isHigh u = true) (hrest : beginsLow rest = false) :
    decode (u :: rest) = replacement :: decode rest := by
  cases rest with
  | nil => simp [decode, hu]
  | cons v rest =>
    have hv : isLow v = false := hrest
    rw [decode.eq_def]
    simp only [hu, hv, Bool.false_eq_true, if_true, if_false]

theorem decode_low (hu : isLow u = true) (rest : List UInt16) :
    decode (u :: rest) = replacement :: decode rest := by
  rw [decode.eq_def]
  simp only [isHigh_of_isLow hu, hu, Bool.false_eq_true, if_true, if_false]

/-! ### Two parts -/

theorem endsHigh_cons (h : endsHigh rest = true) (u : UInt16) : endsHigh (u :: rest) = true := by
  cases rest with
  | nil => cases h
  | cons v rest => rwa [endsHigh, List.getLast?_cons_cons]

/-- Two parts are read one after the other unless they make a pair. -/
theorem decode_append (h : ¬ (endsHigh a = true ∧ beginsLow b = true)) :
    decode (a ++ b) = decode a ++ decode b := by
  fun_induction decode a with
  | case1 => rfl
  | case2 u hu =>
    have hb : beginsLow b = false := Bool.eq_false_iff.2 fun hb => h ⟨hu, hb⟩
    exact decode_high hu hb
  | case3 u hu v rest hv ih =>
    have hrest := ih fun hr => h ⟨endsHigh_cons (endsHigh_cons hr.1 v) u, hr.2⟩
    rw [List.cons_append, List.cons_append, decode_pair hu hv, hrest, List.cons_append]
  | case4 u hu v rest hv ih =>
    have hrest := ih fun hr => h ⟨endsHigh_cons hr.1 u, hr.2⟩
    have hv' : beginsLow ((v :: rest) ++ b) = false := Bool.eq_false_iff.2 hv
    rw [List.cons_append, decode_high hu hv', hrest, List.cons_append]
  | case5 u rest hu hv ih =>
    have hrest := ih fun hr => h ⟨endsHigh_cons hr.1 u, hr.2⟩
    rw [List.cons_append, decode_low hv, hrest, List.cons_append]
  | case6 u rest hu hv ih =>
    have hrest := ih fun hr => h ⟨endsHigh_cons hr.1 u, hr.2⟩
    rw [List.cons_append, decode_cons_of_plain (plain_of_not hu hv), hrest, List.cons_append]

/-- What begins with a high surrogate is read by itself, whatever stands before it. -/
theorem decode_append_high (before rest : List UInt16) (hu : isHigh u = true) :
    decode (before ++ u :: rest) = decode before ++ decode (u :: rest) := by
  apply decode_append
  rintro ⟨-, hlow⟩
  exact Bool.eq_false_iff.1 (isLow_of_isHigh hu) hlow

/-- A high surrogate at an end and a low one at a beginning are one character together. -/
theorem decode_append_pair (before after : List UInt16) (hu : isHigh u = true)
    (hv : isLow v = true) :
    decode (before ++ [u] ++ v :: after) = decode before ++ pair u v :: decode after := by
  rw [List.append_assoc, List.singleton_append, decode_append_high _ _ hu, decode_pair hu hv]

/-- At an end a high surrogate is alone. -/
theorem decode_concat_high (before : List UInt16) (hu : isHigh u = true) :
    decode (before ++ [u]) = decode before ++ [replacement] := by
  rw [decode_append_high _ _ hu, decode_high hu rfl]
  rfl

theorem unpairedAt_concat_high (before : List UInt16) (hu : isHigh u = true) :
    unpairedAt (before ++ [u]) before.length = true := by
  simp [unpairedAt, isHighAt, isLowAt, hu]

theorem unpairedAt_cons_low (hv : isLow v = true) (after : List UInt16) :
    unpairedAt (v :: after) 0 = true := by
  simp [unpairedAt, isLowAt, isHighBefore, hv]

end Utf16

namespace CodeUnits

variable {a b before after : CodeUnits} {high low : UInt16}

/-- The first part ends with a high surrogate and the second one begins with a low one. Each is
without a partner and is read as U+FFFD. In the whole they are a pair, and are read as the one
character, beyond the basic plane, whose encoding they are. -/
structure Meets (a b before after : CodeUnits) (high low : UInt16) : Prop where
  first : a.units = before.units ++ [high]
  second : b.units = low :: after.units
  high_unpaired : Utf16.unpairedAt a.units before.length = true
  low_unpaired : Utf16.unpairedAt b.units 0 = true
  toText_first : a.toText = before.toText ++ "\uFFFD"
  toText_second : b.toText = "\uFFFD" ++ after.toText
  supplementary : 0x10000 ≤ (Utf16.pair high low).toNat
  encoding : Utf16.encodeChar (Utf16.pair high low) = [high, low]
  toText_whole : (a ++ b).toText =
    before.toText ++ String.singleton (Utf16.pair high low) ++ after.toText

theorem meets (hhigh : Utf16.isHigh high = true) (hlow : Utf16.isLow low = true)
    (ha : a.units = before.units ++ [high]) (hb : b.units = low :: after.units) :
    Meets a b before after high low where
  first := ha
  second := hb
  high_unpaired := by rw [ha, length, Utf16.unpairedAt_concat_high _ hhigh]
  low_unpaired := by rw [hb, Utf16.unpairedAt_cons_low hlow]
  toText_first := by
    rw [toText, ha, Utf16.decode_concat_high _ hhigh, String.ofList_append]
    rfl
  toText_second := by
    rw [toText, hb, Utf16.decode_low hlow, ← List.singleton_append, String.ofList_append]
    rfl
  supplementary := by
    have hnumber := Utf16.toNat_pair hhigh hlow
    omega
  encoding := Utf16.encodeChar_pair hhigh hlow
  toText_whole := by
    rw [toText, units_append, ha, hb, Utf16.decode_append_pair _ _ hhigh hlow,
      ← List.singleton_append, String.ofList_append, String.ofList_append,
      ← String.singleton_eq_ofList, String.append_assoc]
    rfl

theorem exists_meets (ha : Utf16.endsHigh a.units = true) (hb : Utf16.beginsLow b.units = true) :
    ∃ before after high low, Meets a b before after high low := by
  obtain ⟨high, hlast, hhigh⟩ := (Option.any_eq_true _ _).1 ha
  obtain ⟨before, hbefore⟩ := List.getLast?_eq_some_iff.1 hlast
  obtain ⟨low, hhead, hlow⟩ := (Option.any_eq_true _ _).1 hb
  obtain ⟨after, hafter⟩ := List.head?_eq_some_iff.1 hhead
  exact ⟨⟨before⟩, ⟨after⟩, high, low, meets hhigh hlow hbefore hafter⟩

/-- One character is not two. -/
theorem Meets.toText_append_ne (h : Meets a b before after high low) :
    (a ++ b).toText ≠ a.toText ++ b.toText := by
  intro heq
  rw [h.toText_whole, h.toText_first, h.toText_second] at heq
  have hlength := congrArg String.length heq
  simp only [String.length_append, String.length_singleton] at hlength
  have hreplacement : "\uFFFD".length = 1 := rfl
  omega

theorem toText_append_iff : (a ++ b).toText = a.toText ++ b.toText ↔
    ¬ (Utf16.endsHigh a.units = true ∧ Utf16.beginsLow b.units = true) := by
  constructor
  · rintro h ⟨ha, hb⟩
    obtain ⟨before, after, high, low, hmeets⟩ := exists_meets ha hb
    exact hmeets.toText_append_ne h
  · intro h
    rw [toText, units_append, Utf16.decode_append h, String.ofList_append]
    rfl

/-- **Concatenation and text.** Texts are put together by putting together their units. The text of
two parts is that of the one and then that of the other, if and only if it is not the case that the
one ends with a high surrogate and the other begins with a low one. In that case two surrogates
without a partner, two U+FFFD, become one character. -/
theorem texts_join_unless_surrogates_meet (s t : String) (a b : CodeUnits) :
    ofString s ++ ofString t = ofString (s ++ t) ∧
      ((a ++ b).toText = a.toText ++ b.toText ↔
        ¬ (Utf16.endsHigh a.units = true ∧ Utf16.beginsLow b.units = true)) ∧
      (Utf16.endsHigh a.units = true ∧ Utf16.beginsLow b.units = true →
        ∃ before after high low, Meets a b before after high low) := by
  refine ⟨?_, toText_append_iff, fun h => exists_meets h.1 h.2⟩
  apply congrArg mk
  show Utf16.encode s.toList ++ Utf16.encode t.toList = Utf16.encode (s ++ t).toList
  rw [String.toList_append, Utf16.encode_append]

/-- Put together in their order, the halves of a pair are one character. -/
theorem texts_join_unless_surrogates_meet_halves :
    let first : CodeUnits := ⟨[0x67, 0xD83D]⟩
    let second : CodeUnits := ⟨[0xDE00, 0x21]⟩
    (first ++ second).toText = "g😀!" ∧
      (second ++ first).toText = second.toText ++ first.toText ∧
      ∃ before after high low, Meets first second before after high low := by
  intro first second
  obtain ⟨-, -, hmeets⟩ := texts_join_unless_surrogates_meet "" "" first second
  obtain ⟨-, hjoin, -⟩ := texts_join_unless_surrogates_meet "" "" second first
  exact ⟨by decide, hjoin.2 (by decide), hmeets (by decide)⟩

end CodeUnits

end FunctionObjects
