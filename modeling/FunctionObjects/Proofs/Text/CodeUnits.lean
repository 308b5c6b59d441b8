import FunctionObjects.Text.CodeUnits

/-!
# Text that goes in comes out again

The encoding of a character is one unit that is no surrogate, or a high surrogate and then a low
one. Either way the first unit tells which it is, so what follows does not matter to its reading,
and the encoding of a text is read character by character.
-/

namespace FunctionObjects

namespace Utf16

theorem toNat_unit {n : Nat} (hn : n < 0x10000) : (unit n).toNat = n := by
  rw [unit, UInt16.toNat_ofNat', Nat.mod_eq_of_lt hn]

/-- A character is in the basic plane, where the surrogates are left out, or beyond it. -/
theorem toNat_cases (c : Char) :
    c.toNat < 0xD800 ∨ 0xE000 ≤ c.toNat ∧ c.toNat < 0x10000 ∨
      0x10000 ≤ c.toNat ∧ c.toNat < 0x110000 := by
  have hvalid : c.toNat < 0xD800 ∨ 0xDFFF < c.toNat ∧ c.toNat < 0x110000 := c.valid
  omega

theorem isHigh_iff {u : UInt16} : isHigh u = true ↔ 0xD800 ≤ u.toNat ∧ u.toNat < 0xDC00 := by
  simp [isHigh]

theorem isLow_iff {u : UInt16} : isLow u = true ↔ 0xDC00 ≤ u.toNat ∧ u.toNat < 0xE000 := by
  simp [isLow]

/-- What is neither half of a pair is no surrogate. -/
theorem plain_of_not {u : UInt16} (hhigh : ¬ isHigh u = true) (hlow : ¬ isLow u = true) :
    u.toNat < 0xD800 ∨ 0xE000 ≤ u.toNat := by
  rw [isHigh_iff] at hhigh
  rw [isLow_iff] at hlow
  omega

/-- A unit that is no surrogate is a character by itself. -/
theorem decode_cons_of_plain {u : UInt16} (hu : u.toNat < 0xD800 ∨ 0xE000 ≤ u.toNat)
    (rest : List UInt16) : decode (u :: rest) = Char.ofNat u.toNat :: decode rest := by
  have hhigh : isHigh u = false := by
    rw [Bool.eq_false_iff, ne_eq, isHigh_iff]
    omega
  have hlow : isLow u = false := by
    rw [Bool.eq_false_iff, ne_eq, isLow_iff]
    omega
  rw [decode.eq_def]
  simp only [hhigh, hlow, Bool.false_eq_true, if_false]

/-- A high surrogate and a low one are a character together. -/
theorem decode_pair {u v : UInt16} (hu : isHigh u = true) (hv : isLow v = true)
    (rest : List UInt16) : decode (u :: v :: rest) = pair u v :: decode rest := by
  rw [decode.eq_def]
  simp only [hu, hv, if_true]

/-- A character is read off the beginning of its encoding, whatever follows. -/
theorem decode_encodeChar_append (c : Char) (rest : List UInt16) :
    decode (encodeChar c ++ rest) = c :: decode rest := by
  unfold encodeChar
  split
  · next hbasic =>
    have hunit := toNat_unit hbasic
    have hplain : (unit c.toNat).toNat < 0xD800 ∨ 0xE000 ≤ (unit c.toNat).toNat := by
      have := toNat_cases c
      omega
    rw [List.singleton_append, decode_cons_of_plain hplain, hunit, Char.ofNat_toNat]
  · next hwide =>
    have hhigh : (unit (0xD800 + (c.toNat - 0x10000) / 0x400)).toNat =
        0xD800 + (c.toNat - 0x10000) / 0x400 := by
      refine toNat_unit ?_
      have := toNat_cases c
      omega
    have hlow : (unit (0xDC00 + (c.toNat - 0x10000) % 0x400)).toNat =
        0xDC00 + (c.toNat - 0x10000) % 0x400 := toNat_unit (by omega)
    have hpair : pair (unit (0xD800 + (c.toNat - 0x10000) / 0x400))
        (unit (0xDC00 + (c.toNat - 0x10000) % 0x400)) = c := by
      have hnumber : 0x10000 + (0xD800 + (c.toNat - 0x10000) / 0x400 - 0xD800) * 0x400 +
          (0xDC00 + (c.toNat - 0x10000) % 0x400 - 0xDC00) = c.toNat := by omega
      rw [pair, hhigh, hlow, hnumber, Char.ofNat_toNat]
    rw [List.cons_append, List.singleton_append, decode_pair, hpair]
    · rw [isHigh_iff, hhigh]
      have := toNat_cases c
      omega
    · rw [isLow_iff, hlow]
      omega

theorem decode_encode (text : List Char) : decode (encode text) = text := by
  induction text with
  | nil => rfl
  | cons c rest ih => rw [encode_cons, decode_encodeChar_append, ih]

end Utf16

/-- No text is lost on its way through the units. -/
theorem CodeUnits.toText_ofString (s : String) : (ofString s).toText = s := by
  rw [toText, units_ofString, Utf16.decode_encode, String.ofList_toList]

end FunctionObjects
