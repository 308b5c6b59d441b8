import FunctionObjects.Proofs.Number.Exact
import FunctionObjects.Value

/-!
# When two values are the same

`Value.same` is a comparison case by case. It looks at less than the whole of a value: not at the
bits of a NaN and not at the description of a symbol. `Value.representative` keeps of a value just
what it looks at, and two values are the same if and only if their representatives are equal
(`Value.same_iff_representative`). That it is an equivalence is then plain.

Two numbers are the same if they stand for the same, the sign of a zero included. It is only this
sign that numbers of equal value can differ in (`Double.equal_and_not_same_iff`).
-/

namespace FunctionObjects

namespace Double

variable {x y : Double}

/-- A zero is nothing but its sign. -/
theorem eq_of_isZero (hx : x.isZero = true) (hy : y.isZero = true)
    (hsign : x.isNegative = y.isNegative) : x = y := by
  simp only [isZero, Bool.and_eq_true, beq_iff_eq] at hx hy
  exact eq_of_fields hsign (hx.1.trans hy.1.symm) (hx.2.trans hy.2.symm)

theorem same_iff : x.same y = true ↔ x.isNaN = true ∧ y.isNaN = true ∨ x = y := by
  simp only [same, equal, Bool.or_eq_true, Bool.and_eq_true, Bool.not_eq_true', beq_iff_eq]
  constructor
  · rintro (hnan | ⟨⟨-, hbits | ⟨hx, hy⟩⟩, hsign⟩)
    · exact .inl hnan
    · exact .inr (congrArg mk hbits)
    · exact .inr (eq_of_isZero hx hy hsign)
  · rintro (hnan | rfl)
    · exact .inl hnan
    · cases hx : x.isNaN <;> simp

/-- Numbers are the same if they stand for the same. -/
theorem same_iff_meaning : x.same y = true ↔ x.meaning = y.meaning :=
  same_iff.trans meaning_eq_iff.symm

/-- The two zeros have the same value and differ in their sign; no other numbers are like that. -/
theorem equal_and_not_same_iff : x.equal y = true ∧ x.same y = false ↔
    x.isZero = true ∧ y.isZero = true ∧ x.isNegative ≠ y.isNegative := by
  rw [equal_iff_eq_or_isZero, ← Bool.not_eq_true (x.same y), same_iff]
  constructor
  · rintro ⟨⟨-, heq⟩ | ⟨hx, hy⟩, hnot⟩
    · exact absurd (.inr heq) hnot
    · exact ⟨hx, hy, fun hsign => hnot (.inr (eq_of_isZero hx hy hsign))⟩
  · rintro ⟨hx, hy, hsign⟩
    refine ⟨.inr ⟨hx, hy⟩, ?_⟩
    rintro (⟨hnan, -⟩ | rfl)
    · cases hnan.symm.trans (isNaN_of_isZero hx)
    · exact hsign rfl

/-- The number itself, or one NaN for all of them. -/
def representative (x : Double) : Double :=
  if x.isNaN then ofNatBits 0x7ff8000000000000 else x

theorem same_iff_representative : x.same y = true ↔ x.representative = y.representative := by
  have hnan : (ofNatBits 0x7ff8000000000000).isNaN = true := by decide
  rw [same_iff, representative, representative]
  constructor
  · rintro (⟨hx, hy⟩ | rfl)
    · rw [if_pos hx, if_pos hy]
    · rfl
  · intro h
    split at h
    · next hx =>
      split at h
      · next hy => exact .inl ⟨hx, hy⟩
      · next hy => exact absurd (h ▸ hnan) hy
    · next hx =>
      split at h
      · exact absurd (h ▸ hnan) hx
      · exact .inr h

end Double

namespace Value

variable {u v w : Value}

/-- What counts of a value when it is compared with another one. -/
def representative : Value → Value
  | .number x => .number x.representative
  | .symbol s => .symbol ⟨s.id, none⟩
  | v => v

theorem same_iff_representative : v.same w = true ↔ v.representative = w.representative := by
  cases v <;> cases w <;> simp [same, representative, Double.same_iff_representative]

theorem same_refl (v : Value) : v.same v = true := same_iff_representative.2 rfl

theorem same_trans (h : u.same v = true) (h' : v.same w = true) : u.same w = true :=
  same_iff_representative.2 ((same_iff_representative.1 h).trans (same_iff_representative.1 h'))

theorem same_symm (h : v.same w = true) : w.same v = true :=
  same_iff_representative.2 (same_iff_representative.1 h).symm

/-- The seven kinds of values. -/
inductive Kind : Type where
  | undefined
  | null
  | boolean
  | number
  | string
  | symbol
  | object
deriving DecidableEq

def kind : Value → Kind
  | .undefined => .undefined
  | .null => .null
  | .boolean _ => .boolean
  | .number _ => .number
  | .string _ => .string
  | .symbol _ => .symbol
  | .object _ => .object

theorem kind_eq_of_same (h : v.same w = true) : v.kind = w.kind := by
  cases v <;> cases w <;> first | rfl | cases h

/-- **Being the same is an equivalence** on all values, the NaNs included, and values of different
kinds are never the same. Numbers are the same if both are NaN or all their bits are equal, that is
if they stand for the same; among those that are equal in value it tells the two zeros apart and no
others. Strings are the same if their units are, and symbols and objects if their numbers are,
whatever the symbols are described by. -/
theorem same_is_equivalence :
    Equivalence (fun v w : Value => v.same w = true) ∧
      (∀ v w : Value, v.same w = true → v.kind = w.kind) ∧
      (∀ a b, (boolean a).same (boolean b) = true ↔ a = b) ∧
      (∀ x y, (number x).same (number y) = true ↔
        x.isNaN = true ∧ y.isNaN = true ∨ x.bits = y.bits) ∧
      (∀ x y, (number x).same (number y) = true ↔ x.meaning = y.meaning) ∧
      (∀ x y, x.meaning.Equal y.meaning ∧ (number x).same (number y) = false ↔
        x.isZero = true ∧ y.isZero = true ∧ x.isNegative ≠ y.isNegative) ∧
      (∀ s t, (string s).same (string t) = true ↔ s.units = t.units) ∧
      (∀ s t, (symbol s).same (symbol t) = true ↔ s.id = t.id) ∧
      ∀ a b, (object a).same (object b) = true ↔ a = b := by
  refine ⟨⟨same_refl, same_symm, same_trans⟩, fun v w => kind_eq_of_same, fun a b => beq_iff_eq,
    fun x y => ?_, fun x y => Double.same_iff_meaning, fun x y => ?_, fun s t => ?_,
    fun s t => beq_iff_eq, fun a b => beq_iff_eq⟩
  · refine Double.same_iff.trans (or_congr_right ?_)
    exact ⟨congrArg Double.bits, congrArg Double.mk⟩
  · rw [← Double.equal_iff]
    exact Double.equal_and_not_same_iff
  · refine beq_iff_eq.trans ?_
    exact ⟨congrArg CodeUnits.units, congrArg CodeUnits.mk⟩

/-- Two NaNs that differ in sign and fraction are the same, the two zeros are not, and two symbols
with one number are. -/
theorem same_is_equivalence_nans :
    let nan := Double.ofNatBits 0x7ff8000000000000
    let other := Double.ofNatBits 0xfff0000000000001
    let negativeZero := Double.ofNatBits 0x8000000000000000
    (number nan).same (number other) = true ∧ (number other).same (number nan) = true ∧
      (number nan).same (number nan) = true ∧
      (number .zero).same (number negativeZero) = false ∧
      (symbol ⟨1, none⟩).same (symbol ⟨1, some ⟨[0x61]⟩⟩) = true ∧
      (symbol ⟨1, none⟩).kind = (symbol ⟨1, some ⟨[0x61]⟩⟩).kind := by
  intro nan other negativeZero
  obtain ⟨hequivalence, hkind, -, hnumber, -, hzeros, -, hsymbol, -⟩ := same_is_equivalence
  have hnans : (number nan).same (number other) = true := (hnumber nan other).2 (by decide)
  have hsymbols : (symbol ⟨1, none⟩).same (symbol ⟨1, some ⟨[0x61]⟩⟩) = true := (hsymbol _ _).2 rfl
  exact ⟨hnans, hequivalence.symm hnans, hequivalence.refl _,
    ((hzeros .zero negativeZero).2 (by decide)).2, hsymbols, hkind _ _ hsymbols⟩

end Value

end FunctionObjects
