import FunctionObjects.Proofs.Text.CodeUnits

/-!
# Surrogates without a partner

Which surrogates of a sequence have a partner can be told from their neighbours alone. A high one
has one if a low one follows, a low one if a high one stands before it; what is further away does
not matter, since no unit is both. `Utf16.unpairedAt` says it so, place by place, and knows nothing
of how a sequence is read.

Reading a sequence and writing what was read leaves every unit in its place, but for the surrogates
without a partner (`Utf16.encode_decode`). So units come out as they went in if and only if there is
no such surrogate, and then they are the encoding of the text that was read.
-/

namespace FunctionObjects

namespace Utf16

variable {u v : UInt16} {units rest : List UInt16} {i : Nat}

/-! ### Places -/

def isHighAt (units : List UInt16) (i : Nat) : Bool := units[i]?.any isHigh

def isLowAt (units : List UInt16) (i : Nat) : Bool := units[i]?.any isLow

/-- Whether the unit before the place is a high surrogate. -/
def isHighBefore (units : List UInt16) : Nat → Bool
  | 0 => false
  | i + 1 => isHighAt units i

/-- Whether there is a surrogate without a partner at the place: a high one that no low one follows,
or a low one with no high one before it. -/
def unpairedAt (units : List UInt16) (i : Nat) : Bool :=
  (isHighAt units i && !isLowAt units (i + 1)) || (isLowAt units i && !isHighBefore units i)

/-- The units with U+FFFD in the place of each surrogate without a partner. -/
def mended (units : List UInt16) : List UInt16 :=
  units.mapIdx fun i u => if unpairedAt units i then 0xFFFD else u

theorem isLow_of_isHigh (h : isHigh u = true) : isLow u = false := by
  rw [isHigh_iff] at h
  rw [Bool.eq_false_iff, ne_eq, isLow_iff]
  omega

theorem isHigh_of_isLow (h : isLow u = true) : isHigh u = false := by
  rw [isLow_iff] at h
  rw [Bool.eq_false_iff, ne_eq, isHigh_iff]
  omega

/-- A unit in front matters to the rest only if it makes a pair with the first unit of it. -/
theorem unpairedAt_cons_succ (h : isHigh u = true → isLowAt rest 0 = false) (i : Nat) :
    unpairedAt (u :: rest) (i + 1) = unpairedAt rest i := by
  cases i with
  | succ i => rfl
  | zero =>
    show (isHighAt rest 0 && !isLowAt rest 1 || isLowAt rest 0 && !isHigh u) =
      (isHighAt rest 0 && !isLowAt rest 1 || isLowAt rest 0 && !false)
    cases hu : isHigh u with
    | false => rfl
    | true => rw [h hu, Bool.false_and, Bool.false_and]

theorem mended_cons (h : isHigh u = true → isLowAt rest 0 = false) :
    mended (u :: rest) = (if isHigh u || isLow u then 0xFFFD else u) :: mended rest := by
  have hfirst : unpairedAt (u :: rest) 0 = (isHigh u || isLow u) := by
    show (isHigh u && !isLowAt rest 0 || isLow u && !false) = _
    cases hu : isHigh u with
    | false => simp
    | true => simp [h hu]
  simp only [mended, List.mapIdx_cons, hfirst, unpairedAt_cons_succ h]

theorem mended_pair (hu : isHigh u = true) (hv : isLow v = true) :
    mended (u :: v :: rest) = u :: v :: mended rest := by
  have hfirst : unpairedAt (u :: v :: rest) 0 = false := by
    show (isHigh u && !isLow v || isLow u && !false) = false
    rw [hu, hv, isLow_of_isHigh hu]
    rfl
  have hsecond : unpairedAt (u :: v :: rest) 1 = false := by
    show (isHigh v && !isLowAt rest 0 || isLow v && !isHigh u) = false
    rw [hu, hv, isHigh_of_isLow hv]
    rfl
  have hrest : ∀ i, unpairedAt (u :: v :: rest) (i + 1 + 1) = unpairedAt rest i := by
    intro i
    show unpairedAt (v :: rest) (i + 1) = unpairedAt rest i
    apply unpairedAt_cons_succ
    rw [isHigh_of_isLow hv]
    exact nofun
  simp only [mended, List.mapIdx_cons, hfirst, hsecond, hrest, Bool.false_eq_true, if_false,
    Nat.zero_add]

theorem getElem?_mended (units : List UInt16) (i : Nat) :
    (mended units)[i]? = units[i]?.map fun u => if unpairedAt units i then 0xFFFD else u :=
  List.getElem?_mapIdx

/-- What has no partner is a surrogate, and so is not what it is read as. -/
theorem ne_of_unpairedAt (hi : units[i]? = some u) (h : unpairedAt units i = true) :
    u ≠ 0xFFFD := by
  rintro rfl
  have hhigh : isHighAt units i = false := by
    rw [isHighAt, hi]
    decide
  have hlow : isLowAt units i = false := by
    rw [isLowAt, hi]
    decide
  rw [unpairedAt, hhigh, hlow] at h
  cases h

theorem mended_eq_self_iff :
    mended units = units ↔ ∀ i < units.length, unpairedAt units i = false := by
  constructor
  · intro h i hi
    rw [Bool.eq_false_iff]
    intro hunpaired
    have hunit : units[i]? = some units[i] := List.getElem?_eq_getElem hi
    have hmended : (mended units)[i]? = some 0xFFFD := by
      rw [getElem?_mended, hunit, Option.map_some, if_pos hunpaired]
    rw [h, hunit] at hmended
    exact ne_of_unpairedAt hunit hunpaired (Option.some.inj hmended)
  · intro h
    apply List.ext_getElem?
    intro i
    rw [getElem?_mended]
    cases hi : units[i]? with
    | none => rfl
    | some u =>
      obtain ⟨hlt, -⟩ := List.getElem?_eq_some_iff.1 hi
      rw [Option.map_some, h i hlt]
      rfl

/-! ### Writing what was read -/

theorem toNat_ofNat {n : Nat} (hn : n.isValidChar) : (Char.ofNat n).toNat = n := by
  rw [Char.ofNat, dif_pos hn]
  rfl

theorem encodeChar_ofNat (hu : u.toNat < 0xD800 ∨ 0xE000 ≤ u.toNat) :
    encodeChar (Char.ofNat u.toNat) = [u] := by
  have hlt := u.toNat_lt
  have hvalid : u.toNat.isValidChar := by
    unfold Nat.isValidChar
    omega
  rw [encodeChar, toNat_ofNat hvalid, if_pos (by omega), unit, UInt16.ofNat_toNat]

/-- A pair stands for a character beyond the basic plane. -/
theorem toNat_pair (hu : isHigh u = true) (hv : isLow v = true) :
    (pair u v).toNat = 0x10000 + (u.toNat - 0xD800) * 0x400 + (v.toNat - 0xDC00) := by
  rw [isHigh_iff] at hu
  rw [isLow_iff] at hv
  apply toNat_ofNat
  unfold Nat.isValidChar
  omega

theorem encodeChar_pair (hu : isHigh u = true) (hv : isLow v = true) :
    encodeChar (pair u v) = [u, v] := by
  have hnumber := toNat_pair hu hv
  rw [isHigh_iff] at hu
  rw [isLow_iff] at hv
  have hfirst : 0xD800 + ((pair u v).toNat - 0x10000) / 0x400 = u.toNat := by omega
  have hsecond : 0xDC00 + ((pair u v).toNat - 0x10000) % 0x400 = v.toNat := by omega
  rw [encodeChar, if_neg (by omega)]
  show [unit _, unit _] = _
  rw [hfirst, hsecond, unit, unit, UInt16.ofNat_toNat, UInt16.ofNat_toNat]

/-- Reading and writing mends a sequence and does nothing else. -/
theorem encode_decode (units : List UInt16) : encode (decode units) = mended units := by
  have hreplacement : ∀ text, encode (replacement :: text) = 0xFFFD :: encode text :=
    encode_cons replacement
  fun_induction decode units with
  | case1 => rfl
  | case2 u hu =>
    rw [mended_cons (fun _ => rfl), hu]
    rfl
  | case3 u hu v rest hv ih =>
    rw [encode_cons, encodeChar_pair hu hv, ih, mended_pair hu hv]
    rfl
  | case4 u hu v rest hv ih =>
    have hfollows : isLowAt (v :: rest) 0 = false := Bool.eq_false_iff.2 hv
    rw [hreplacement, ih, mended_cons (fun _ => hfollows), hu]
    rfl
  | case5 u rest hu hv ih =>
    rw [hreplacement, ih, mended_cons (fun h => absurd h hu), hv, Bool.or_true]
    rfl
  | case6 u rest hu hv ih =>
    rw [encode_cons, encodeChar_ofNat (plain_of_not hu hv), ih,
      mended_cons (fun h => absurd h hu), Bool.eq_false_iff.2 hu, Bool.eq_false_iff.2 hv]
    rfl

/-! ### Units and texts -/

theorem spells_iff {text : List Char} : spells units text = true ↔ units = encode text := by
  induction text generalizing units with
  | nil => exact List.isEmpty_iff
  | cons c rest ih =>
    rw [spells, encode_cons, Bool.and_eq_true, List.isPrefixOf_iff_prefix, ih]
    constructor
    · rintro ⟨⟨after, rfl⟩, hrest⟩
      rw [← hrest, List.drop_left]
    · rintro rfl
      exact ⟨List.prefix_append _ _, List.drop_left⟩

end Utf16

namespace CodeUnits

/-- No surrogate of the sequence is without a partner. -/
def WellFormed (u : CodeUnits) : Prop := ∀ i < u.length, Utf16.unpairedAt u.units i = false

instance (u : CodeUnits) : Decidable u.WellFormed :=
  inferInstanceAs (Decidable (∀ i < u.length, Utf16.unpairedAt u.units i = false))

theorem spells_iff {u : CodeUnits} {s : String} : u.spells s = true ↔ u = ofString s := by
  rw [CodeUnits.spells, Utf16.spells_iff]
  exact ⟨congrArg mk, congrArg units⟩

theorem units_ofString_toText (u : CodeUnits) :
    (ofString u.toText).units = Utf16.mended u.units := by
  rw [units_ofString, toText, String.toList_ofList, Utf16.encode_decode]

/-- **Text and units, there and back.** A text that goes in comes out again. Units that are read and
written come back each in its place, with U+FFFD for every surrogate without a partner and nothing
else changed, so that they are the same if and only if they are well-formed. Units are compared with
a text by the encoding of the text. So they are never those of two texts, and if they are those of
one, it is the one that is read from them. -/
theorem text_there_and_back (u : CodeUnits) (s : String) :
    (ofString s).toText = s ∧
      (ofString u.toText).units =
        u.units.mapIdx (fun i x => if Utf16.unpairedAt u.units i then 0xFFFD else x) ∧
      (ofString u.toText = u ↔ u.WellFormed) ∧
      (u.spells s = true ↔ u.units = (ofString s).units) ∧
      (∀ t, u.spells s = true → u.spells t = true → s = t) ∧
      (u.spells s = true → u.toText = s) := by
  refine ⟨toText_ofString s, u.units_ofString_toText, ?_, Utf16.spells_iff, fun t hs ht => ?_,
    fun hs => ?_⟩
  · constructor
    · intro h
      have hunits := congrArg units h
      rw [units_ofString_toText] at hunits
      exact Utf16.mended_eq_self_iff.1 hunits
    · intro h
      exact congrArg mk (u.units_ofString_toText.trans (Utf16.mended_eq_self_iff.2 h))
  · rw [← toText_ofString s, ← spells_iff.1 hs, spells_iff.1 ht, toText_ofString]
  · rw [spells_iff.1 hs, toText_ofString]

/-- The two surrogates of a reversed pair are without a partner, and in their order they are a
text. -/
theorem text_there_and_back_reversed :
    let reversed : CodeUnits := ⟨[0xDE00, 0xD83D, 0x61]⟩
    let inOrder : CodeUnits := ⟨[0xD83D, 0xDE00, 0x61]⟩
    (¬ reversed.WellFormed ∧ (ofString reversed.toText).units = [0xFFFD, 0xFFFD, 0x61]) ∧
      inOrder.WellFormed ∧ inOrder.spells "😀a" = true ∧ inOrder.toText = "😀a" := by
  intro reversed inOrder
  obtain ⟨-, hmended, -, -, -, -⟩ := text_there_and_back reversed ""
  obtain ⟨-, -, -, -, -, htext⟩ := text_there_and_back inOrder "😀a"
  have hspells : inOrder.spells "😀a" = true := by decide
  exact ⟨⟨by decide, hmended⟩, by decide, hspells, htext hspells⟩

end CodeUnits

end FunctionObjects
