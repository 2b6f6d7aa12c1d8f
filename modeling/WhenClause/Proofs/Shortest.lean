/-
**Shortest decimals.**

The shortest decimal of a finite number is one that reads back as its absolute value: each decimal
with few digits is tried before it is taken, and the exact one, which stands behind them, is the
absolute value itself (`Double.readsBack_shortestDigits`).

So what stands for a finite number in an expression is one number of the grammar, and it is read as
this number, or as `0` where it is `-0` (`Double.numberText_characters`).
-/

import WhenClause.Proofs.Negation
import WhenClause.Proofs.Numeral

namespace WhenClause.Double

open Grammar

variable {x : Double} {digits : Nat} {place : Int}

/-! ### Reading back -/

theorem negative_ofScaled (negative : Bool) (digits : Nat) (exponent : Int) :
    ofScaled negative digits exponent =
      ⟨negative, (ofScaled false digits exponent).magnitude⟩ := by
  unfold ofScaled ofRatio
  split
  · rfl
  split
  · rfl
  split
  · rfl
  split <;> rfl

/-- What reads back is the number, but for its sign. -/
theorem ofScaled_of_readsBack (reads : x.readsBack place digits = true) :
    ofScaled x.negative digits place = x := by
  rw [negative_ofScaled, eq_of_beq reads]

theorem readsBack_of_eq (finite : x.isFinite = true)
    (same : (digits * 10 ^ place : ℚ) = x.significand * 2 ^ x.exponent) :
    x.readsBack place digits = true := by
  obtain ⟨numerator, denominator, positive, parts, rounds⟩ := ofScaled_eq false digits place
  have magnitude := nearestMagnitude_of_eq finite positive (parts.trans same)
  have less : x.magnitude.val < infinityMagnitude := of_decide_eq_true finite
  rw [readsBack, rounds, beq_iff_eq]
  refine Fin.ext ?_
  show min (nearestMagnitude numerator denominator) infinityMagnitude = _
  rw [magnitude]
  exact Nat.min_eq_left less.le

/-- All digits of a number read back. -/
theorem readsBack_exactDigits (finite : x.isFinite = true) :
    x.readsBack x.exactDigits.2 x.exactDigits.1 = true := by
  refine readsBack_of_eq finite ?_
  unfold exactDigits
  split
  · rename_i upward
    rw [Nat.cast_mul, cast_pow_toNat 2 upward, zpow_zero, mul_one]
    rfl
  · rename_i downward
    -- a power of five over a power of ten is the inverse of a power of two
    have powers : (10 : ℚ) ^ x.exponent = 2 ^ x.exponent * 5 ^ x.exponent := by
      rw [← mul_zpow]
      norm_num
    have some' : (5 : ℚ) ^ x.exponent ≠ 0 := (zpow_pos (by norm_num) _).ne'
    rw [Nat.cast_mul, cast_pow_toNat_neg 5 downward, powers, mul_assoc, mul_comm ((2 : ℚ) ^ x.exponent)]
    push_cast
    rw [inv_mul_cancel_left₀ some']

/-- **The shortest digits read back.** -/
theorem readsBack_shortestDigits (finite : x.isFinite = true) (tie : Tie) :
    x.readsBack (x.shortestDigits tie).2 (x.shortestDigits tie).1 = true := by
  unfold shortestDigits
  dsimp only
  generalize found : (List.range 17).findSome? _ = tried
  cases tried with
  | none => exact readsBack_exactDigits finite
  | some tried =>
    obtain ⟨further, -, some'⟩ := List.exists_of_findSome?_eq_some found
    obtain ⟨digits, at', rfl⟩ := Option.map_eq_some_iff.mp some'
    exact List.find?_some at'

/-- Decimals that read back as a finite number other than zero are neither great nor small. -/
theorem bounds_of_readsBack (finite : x.isFinite = true) (nonzero : x.isZero = false)
    (reads : x.readsBack place digits = true) :
    (2 : ℚ) ^ (-1076 : Int) < digits * 10 ^ place ∧
      (digits * 10 ^ place : ℚ) < 2 ^ (1024 : Int) := by
  obtain ⟨numerator, denominator, positive, parts, rounds⟩ := ofScaled_eq false digits place
  have less : x.magnitude.val < infinityMagnitude := of_decide_eq_true finite
  have some' : x.magnitude.val ≠ 0 := by simpa [isZero] using nonzero
  have magnitude : min (nearestMagnitude numerator denominator) infinityMagnitude =
      x.magnitude.val := by
    rw [readsBack, rounds] at reads
    exact congrArg Fin.val (eq_of_beq reads)
  rw [← parts]
  constructor
  · by_contra small
    rw [nearestMagnitude_of_ge positive (not_lt.mp small)] at magnitude
    exact some' magnitude.symm
  · by_contra great
    rw [nearestMagnitude_of_le positive (not_lt.mp great), Nat.min_self] at magnitude
    omega

/-- The exponent of such a decimal has few digits. -/
theorem exponent_le (positive : 0 < digits)
    (above : (2 : ℚ) ^ (-1076 : Int) < digits * 10 ^ place)
    (below : (digits * 10 ^ place : ℚ) < 2 ^ (1024 : Int)) :
    (Decimal.ofScaled digits place).exponent.natAbs ≤ openExponent := by
  obtain ⟨least, less⟩ := Decimal.exponent_bounds positive place
  have ten : (1 : ℚ) < 10 := by norm_num
  have upper : (Decimal.ofScaled digits place).exponent < 1024 := by
    rw [← zpow_lt_zpow_iff_right₀ ten]
    refine (least.trans_lt below).trans_le ?_
    exact zpow_le_zpow_left₀ (by decide) (by norm_num) (by norm_num)
  have lower : -1076 < (Decimal.ofScaled digits place).exponent + 1 := by
    rw [← zpow_lt_zpow_iff_right₀ ten]
    refine lt_of_le_of_lt ?_ (above.trans less)
    rw [zpow_neg, zpow_neg]
    refine inv_anti₀ (zpow_pos two_pos _) ?_
    exact zpow_le_zpow_left₀ (by decide) (by norm_num) (by norm_num)
  unfold openExponent
  omega

/-! ### Numbers in expressions -/

/-- A number as it is read back: zero has no sign. -/
def reread (x : Double) : Double := if x.isZero then zero else x

theorem reread_beq (finite : x.isFinite = true) : (x.reread == x) = true := by
  unfold reread
  split
  · rename_i isZero
    obtain ⟨negative, magnitude⟩ := x
    obtain rfl : magnitude = 0 := Fin.ext (by simpa [Double.isZero] using isZero)
    cases negative <;> decide
  · exact (beq_self_iff x).mpr (isNaN_of_isFinite finite)

theorem characters_of_isZero (isZero : x.isZero = true) : x.characters = ['0'] := by
  have value : x.magnitude.val = 0 := by simpa [Double.isZero] using isZero
  have noNaN : x.isNaN = false := by simp [isNaN, value]
  have noInfinite : x.isInfinite = false := by simp [isInfinite, value, infinityMagnitude]
  rw [characters, noNaN, noInfinite, isZero]
  rfl

theorem characters_reread (x : Double) : x.reread.characters = x.characters := by
  unfold reread
  split
  · rename_i isZero
    rw [characters_of_isZero isZero]
    exact characters_of_isZero rfl
  · rfl

/-- What stands for a number other than zero is a numeral of it, with an exponent where the number
is great or small. -/
theorem exists_numeral (finite : x.isFinite = true) (nonzero : x.isZero = false) :
    ∃ whole fraction exponent, IsNumeral whole fraction exponent ∧
      x.characters = numeral x.negative whole fraction exponent ∧
      exponent.isSome = x.usesExponent ∧
      (∀ part ∈ exponent, digitsValue part.2 ≤ openExponent) ∧
      ofScaled x.negative (digitsValue (whole ++ fraction))
        (exponentPart exponent - fraction.length) = x := by
  have less : x.magnitude.val < infinityMagnitude := of_decide_eq_true finite
  have noInfinite : x.isInfinite = false := by
    simp only [isInfinite, beq_eq_false_iff_ne]
    omega
  have reads := readsBack_shortestDigits finite .awayFromZero
  generalize short : x.shortestDigits .awayFromZero = found at reads
  obtain ⟨digits, place⟩ := found
  obtain ⟨above, below⟩ := bounds_of_readsBack finite nonzero reads
  have positive : 0 < digits := by
    refine Nat.pos_of_ne_zero fun zero => ?_
    rw [zero, Nat.cast_zero, zero_mul] at above
    exact absurd above (not_lt.mpr (zpow_pos two_pos _).le)
  obtain ⟨proper, value⟩ := Decimal.proper_ofScaled positive place
  have back := ofScaled_of_readsBack reads
  have sign : x.signText = WhenClause.signText x.negative := rfl
  unfold characters
  rw [isNaN_of_isFinite finite, noInfinite, nonzero, if_neg Bool.false_ne_true,
    if_neg Bool.false_ne_true, if_neg Bool.false_ne_true, shortest, short, sign]
  dsimp only
  split
  · rename_i usesExponent
    obtain ⟨whole, fraction, exponent, isNumeral, same, size, parts⟩ :=
      Decimal.exists_scientific proper x.negative
    refine ⟨whole, fraction, some exponent, isNumeral, same, usesExponent.symm, ?_, ?_⟩
    · rintro _ ⟨⟩
      rw [size]
      exact exponent_le positive above below
    · rw [ofScaled_congr (parts.trans value), back]
  · rename_i noExponent
    obtain ⟨whole, fraction, isNumeral, same, parts⟩ :=
      Decimal.exists_positional proper x.negative
    refine ⟨whole, fraction, none, isNumeral, same, (Bool.eq_false_iff.mpr noExponent).symm,
      fun _ member => absurd member (Option.not_mem_none _), ?_⟩
    exact (ofScaled_congr (parts.trans value) _).trans back

/-- **What stands for a finite number in an expression is read back.** -/
theorem numberText_characters (finite : x.isFinite = true) :
    NumberText x.reread x.characters := by
  unfold reread
  split
  · rename_i isZero
    rw [characters_of_isZero isZero]
    exact ⟨by decide, by decide, by decide⟩
  · rename_i nonzero
    obtain ⟨whole, fraction, exponent, isNumeral, same, -, small, back⟩ :=
      exists_numeral finite (Bool.eq_false_iff.mpr nonzero)
    rw [same]
    refine ⟨takeNumber_numeral isNumeral x.negative, ?_, finite⟩
    rw [read_numeral isNumeral small, back]

end WhenClause.Double
