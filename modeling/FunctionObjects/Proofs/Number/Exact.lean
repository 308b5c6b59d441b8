import FunctionObjects.Number.Double

/-!
# What a datum stands for

A NaN stands for no number, an infinity for one of two, and any other datum for a sign and a
magnitude, counted in the smallest subnormal. `Double.meaning` says so, and the sign of a zero is a
part of it. The magnitudes with one exponent lie below all those with a greater one, so two data
stand for the same only if they are NaNs or if all their bits are equal (`Double.meaning_eq_iff`).

`Double.equal` looks at bits alone. It is equality of exact values nevertheless
(`Double.equal_iff`), where the two zeros have the same value and a NaN has none.
-/

namespace FunctionObjects.Double

variable {x y : Double}

/-- A datum is nothing but its three fields. -/
theorem eq_of_fields (hsign : x.isNegative = y.isNegative)
    (hexponent : x.exponentBits = y.exponentBits) (hfraction : x.fractionBits = y.fractionBits) :
    x = y := by
  obtain ⟨x⟩ := x
  obtain ⟨y⟩ := y
  have hx := x.toNat_lt
  have hy := y.toNat_lt
  simp only [isNegative, exponentBits, fractionBits, exponentMask, hiddenBit,
    decide_eq_decide] at hsign hexponent hfraction
  -- the exponent and the fraction take up all bits but the highest
  have hbits : x.toNat = y.toNat := by omega
  rw [UInt64.toNat_inj.1 hbits]

/-! ### Magnitudes -/

/-- The magnitude of a finite datum, counted in 2^-1074. -/
def magnitude (x : Double) : Nat := x.significand * Nat.pow 2 x.scale

theorem fractionBits_lt (x : Double) : x.fractionBits < hiddenBit := Nat.mod_lt _ (by decide)

theorem magnitude_of_subnormal (h : x.exponentBits = 0) : x.magnitude = x.fractionBits := by
  rw [magnitude, significand, if_pos h, scale, h]
  exact Nat.mul_one _

theorem magnitude_of_normal {e : Nat} (h : x.exponentBits = e + 1) :
    x.magnitude = (hiddenBit + x.fractionBits) * Nat.pow 2 e := by
  rw [magnitude, significand, if_neg (by omega), scale, h, Nat.add_sub_cancel]

theorem magnitude_lt (x : Double) : x.magnitude < hiddenBit * Nat.pow 2 x.exponentBits := by
  have hfraction := x.fractionBits_lt
  cases he : x.exponentBits with
  | zero =>
    rw [magnitude_of_subnormal he]
    exact Nat.lt_of_lt_of_eq hfraction (Nat.mul_one _).symm
  | succ e =>
    have hdouble : hiddenBit * Nat.pow 2 (e + 1) = (hiddenBit + hiddenBit) * Nat.pow 2 e := by
      rw [← Nat.mul_two, Nat.mul_assoc, Nat.mul_comm 2]
      rfl
    rw [magnitude_of_normal he, hdouble]
    exact Nat.mul_lt_mul_of_pos_right (Nat.add_lt_add_left hfraction _) (Nat.two_pow_pos e)

theorem le_magnitude {e : Nat} (h : e < x.exponentBits) :
    hiddenBit * Nat.pow 2 e ≤ x.magnitude := by
  obtain ⟨k, hk⟩ := Nat.exists_eq_add_of_lt h
  rw [magnitude_of_normal hk]
  apply Nat.mul_le_mul (Nat.le_add_right _ _)
  exact Nat.pow_le_pow_right (by decide) (Nat.le_add_right e k)

/-- A greater exponent is a greater magnitude. -/
theorem magnitude_lt_of_exponentBits_lt (h : x.exponentBits < y.exponentBits) :
    x.magnitude < y.magnitude :=
  Nat.lt_of_lt_of_le x.magnitude_lt (le_magnitude h)

theorem fields_of_magnitude_eq (h : x.magnitude = y.magnitude) :
    x.exponentBits = y.exponentBits ∧ x.fractionBits = y.fractionBits := by
  have hexponent : x.exponentBits = y.exponentBits := by
    rcases Nat.lt_trichotomy x.exponentBits y.exponentBits with hlt | heq | hgt
    · exact absurd h (Nat.ne_of_lt (magnitude_lt_of_exponentBits_lt hlt))
    · exact heq
    · exact absurd h (Nat.ne_of_gt (magnitude_lt_of_exponentBits_lt hgt))
  refine ⟨hexponent, ?_⟩
  cases he : y.exponentBits with
  | zero => rwa [magnitude_of_subnormal (hexponent.trans he), magnitude_of_subnormal he] at h
  | succ e =>
    rw [magnitude_of_normal (hexponent.trans he), magnitude_of_normal he] at h
    exact Nat.add_left_cancel (Nat.eq_of_mul_eq_mul_right (Nat.two_pow_pos e) h)

theorem magnitude_eq_zero_iff : x.magnitude = 0 ↔ x.isZero = true := by
  rw [isZero, Bool.and_eq_true, beq_iff_eq, beq_iff_eq]
  constructor
  · intro h
    exact fields_of_magnitude_eq (y := zero) h
  · rintro ⟨he, hf⟩
    rw [magnitude_of_subnormal he, hf]

/-! ### Meanings -/

/-- What a datum can stand for. -/
inductive Meaning : Type where
  | nan
  | infinite (negative : Bool)
  | finite (negative : Bool) (magnitude : Nat)
deriving DecidableEq

/-- What a datum stands for. -/
def meaning (x : Double) : Meaning :=
  if x.isNaN then .nan
  else if x.isInfinite then .infinite x.isNegative
  else .finite x.isNegative x.magnitude

/-- The value of a finite number, counted in 2^-1074. -/
def exactValue : (negative : Bool) → (magnitude : Nat) → Int
  | true, n => -n
  | false, n => n

/-- Which numbers are equal in value. -/
def Meaning.Equal : Meaning → Meaning → Prop
  | .infinite s, .infinite t => s = t
  | .finite s m, .finite t n => exactValue s m = exactValue t n
  | _, _ => False

/-- The fields decide between the three. -/
theorem meaning_cases (x : Double) :
    x.isNaN = true ∧ x.meaning = .nan ∨
      x.isNaN = false ∧ x.exponentBits = exponentMask ∧ x.fractionBits = 0 ∧
        x.meaning = .infinite x.isNegative ∨
      x.isNaN = false ∧ x.exponentBits ≠ exponentMask ∧
        x.meaning = .finite x.isNegative x.magnitude := by
  cases hnan : x.isNaN with
  | true => exact .inl ⟨rfl, if_pos hnan⟩
  | false =>
    have hmeaning : x.meaning =
        if x.isInfinite then .infinite x.isNegative else .finite x.isNegative x.magnitude :=
      if_neg (Bool.eq_false_iff.1 hnan)
    rw [hmeaning]
    by_cases hexponent : x.exponentBits = exponentMask
    · have hfraction : x.fractionBits = 0 := by simpa [isNaN, hexponent] using hnan
      have hinfinite : x.isInfinite = true := by simp [isInfinite, hexponent, hfraction]
      exact .inr (.inl ⟨rfl, hexponent, hfraction, if_pos hinfinite⟩)
    · have hinfinite : ¬ x.isInfinite = true := by simp [isInfinite, hexponent]
      exact .inr (.inr ⟨rfl, hexponent, if_neg hinfinite⟩)

/-- Different data stand for different things, but for the NaNs. -/
theorem meaning_eq_iff :
    x.meaning = y.meaning ↔ x.isNaN = true ∧ y.isNaN = true ∨ x = y := by
  constructor
  · intro h
    rcases x.meaning_cases with ⟨hx, hmx⟩ | ⟨-, hex, hfx, hmx⟩ | ⟨-, -, hmx⟩ <;>
      rcases y.meaning_cases with ⟨hy, hmy⟩ | ⟨-, hey, hfy, hmy⟩ | ⟨-, -, hmy⟩ <;>
      rw [hmx, hmy] at h <;> injection h
    · exact .inl ⟨hx, hy⟩
    · next hsign => exact .inr (eq_of_fields hsign (hex.trans hey.symm) (hfx.trans hfy.symm))
    · next hsign hmagnitude =>
      obtain ⟨hexponent, hfraction⟩ := fields_of_magnitude_eq hmagnitude
      exact .inr (eq_of_fields hsign hexponent hfraction)
  · rintro (⟨hx, hy⟩ | rfl)
    · rw [meaning, if_pos hx, meaning, if_pos hy]
    · rfl

theorem exactValue_eq_iff {s t : Bool} {m n : Nat} :
    exactValue s m = exactValue t n ↔ m = n ∧ (s = t ∨ m = 0) := by
  cases s <;> cases t <;>
    simp only [exactValue, reduceCtorEq, true_or, and_true, false_or] <;> omega

theorem isNaN_of_isZero (h : x.isZero = true) : x.isNaN = false := by
  simp only [isZero, Bool.and_eq_true, beq_iff_eq] at h
  rw [isNaN, h.1]
  rfl

/-- Only the zeros are equal without being the same datum. -/
theorem equal_iff_eq_or_isZero : x.equal y = true ↔
    x.isNaN = false ∧ x = y ∨ x.isZero = true ∧ y.isZero = true := by
  simp only [equal, Bool.and_eq_true, Bool.not_eq_true', Bool.or_eq_true, beq_iff_eq]
  constructor
  · rintro ⟨⟨hx, -⟩, hbits | hzero⟩
    · exact .inl ⟨hx, congrArg mk hbits⟩
    · exact .inr hzero
  · rintro (⟨hx, rfl⟩ | hzero)
    · exact ⟨⟨hx, hx⟩, .inl rfl⟩
    · exact ⟨⟨isNaN_of_isZero hzero.1, isNaN_of_isZero hzero.2⟩, .inr hzero⟩

theorem meaning_eq_nan_iff : x.meaning = .nan ↔ x.isNaN = true := by
  rcases x.meaning_cases with ⟨hx, hm⟩ | ⟨hx, -, -, hm⟩ | ⟨hx, -, hm⟩ <;> simp [hx, hm]

theorem exists_meaning_eq_zero_iff : (∃ s, x.meaning = .finite s 0) ↔ x.isZero = true := by
  rw [← magnitude_eq_zero_iff]
  constructor
  · rintro ⟨s, hs⟩
    rcases x.meaning_cases with ⟨-, hm⟩ | ⟨-, -, -, hm⟩ | ⟨-, -, hm⟩ <;> rw [hm] at hs <;>
      injection hs
  · intro h
    have hzero := magnitude_eq_zero_iff.1 h
    have hexponent : x.exponentBits ≠ exponentMask := by
      simp only [isZero, Bool.and_eq_true, beq_iff_eq] at hzero
      rw [hzero.1]
      decide
    rcases x.meaning_cases with ⟨hnan, -⟩ | ⟨-, hmask, -⟩ | ⟨-, -, hm⟩
    · cases hnan.symm.trans (isNaN_of_isZero hzero)
    · exact absurd hmask hexponent
    · exact ⟨_, hm.trans (congrArg _ h)⟩

/-- What is equal in value is the same or is zero. -/
theorem Meaning.equal_iff {m n : Meaning} :
    m.Equal n ↔ m ≠ .nan ∧ m = n ∨ (∃ s, m = .finite s 0) ∧ ∃ t, n = .finite t 0 := by
  cases m with
  | nan => cases n <;> simp [Equal]
  | infinite s => cases n <;> simp [Equal]
  | finite s m =>
    cases n with
    | nan => simp [Equal]
    | infinite t => simp [Equal]
    | finite t n =>
      simp only [Equal, exactValue_eq_iff, ne_eq, reduceCtorEq, not_false_eq_true, finite.injEq,
        true_and, exists_eq_left']
      grind

/-- Numerical equality is equality of exact values. -/
theorem equal_iff : x.equal y = true ↔ x.meaning.Equal y.meaning := by
  rw [equal_iff_eq_or_isZero, Meaning.equal_iff, ne_eq, meaning_eq_nan_iff, meaning_eq_iff,
    exists_meaning_eq_zero_iff, exists_meaning_eq_zero_iff, Bool.not_eq_true]
  grind

end FunctionObjects.Double
