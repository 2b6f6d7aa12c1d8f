/-
**The form of a number.**

Every finite number has one text: in expressions, in comparisons of texts and in explanations. It is
written with an exponent where the number is great or small, and plainly in between.

* `usesExponent_iff`: the two bounds, as sizes. The upper one, `10 ^ 21`, is a number itself; the
  lower one is the number nearest to `10 ^ (-6)`.
* `characters_read_back`: the grammar takes the text as one number, and both readers of numbers,
  that of expressions and that of contexts, find a number in it that equals the one written.
-/

import WhenClause.Proofs.Nearest
import WhenClause.Proofs.NumberReading

namespace WhenClause.Double

open Grammar

variable {x y : Double}

/-! ### The two bounds -/

theorem isNaN_abs (x : Double) : x.abs.isNaN = x.isNaN := rfl

theorem rank_abs (x : Double) : x.abs.rank = x.magnitude.val := rfl

/-- Absolute values are compared as sizes are. -/
theorem atMost_abs_iff (noNaN : x.isNaN = false) (noNaN' : y.isNaN = false) :
    y.abs.atMost x.abs = true ↔ y.size ≤ x.size := by
  simp [atMost, isNaN_abs, noNaN, noNaN', rank_abs, size_le_size_iff]

theorem less_abs_iff (noNaN : x.isNaN = false) (noNaN' : y.isNaN = false) :
    x.abs.less y.abs = true ↔ x.size < y.size := by
  simp [less, isNaN_abs, noNaN, noNaN', rank_abs, size_lt_size_iff]

/-- The upper bound is exact. -/
theorem size_leastBeyondPositional : leastBeyondPositional.size = 10 ^ 21 := by
  have parts : leastBeyondPositional.magnitude.val =
      ((17 : Int) + 1074).toNat * 0x10000000000000 + 7629394531250000 := by decide +kernel
  rw [size_of_magnitude (by decide) (by decide) (.inr (by decide)) parts]
  norm_num

/-- The lower bound is not: no number is `10 ^ (-6)`. -/
theorem nearest_leastPositional : leastPositional.Nearest (10 ^ (-6 : Int)) := by
  have nearest := nearest_ofScaled false 1 (-6)
  rwa [Nat.cast_one, one_mul] at nearest

/-- **Great and small numbers are written with an exponent.** -/
theorem usesExponent_iff (noNaN : x.isNaN = false) :
    x.usesExponent = true ↔ 10 ^ 21 ≤ x.size ∨ x.size < leastPositional.size := by
  rw [usesExponent, Bool.or_eq_true, ← size_leastBeyondPositional]
  exact or_congr (atMost_abs_iff (y := leastBeyondPositional) noNaN (by decide))
    (less_abs_iff (y := leastPositional) noNaN (by decide))

theorem size_eq_zero_iff : x.size = 0 ↔ x.isZero = true := by
  have none' : (zero : Double).size = 0 := size_of_isZero rfl
  rw [← none', size_eq_size_iff, isZero, beq_iff_eq]
  rfl

/-! ### One text -/

/-- What stands for a number, zero among them, is a numeral. -/
theorem exists_numeral_characters (finite : x.isFinite = true) :
    ∃ whole fraction exponent, IsNumeral whole fraction exponent ∧
      x.characters = numeral (x.negative && !x.isZero) whole fraction exponent ∧
      exponent.isSome = (!x.isZero && x.usesExponent) := by
  cases isZero : x.isZero with
  | true =>
    refine ⟨['0'], [], none, ⟨List.cons_ne_nil _ _, digits_zeros 1, nofun, nofun⟩, ?_, rfl⟩
    rw [characters_of_isZero isZero, Bool.not_true, Bool.and_false]
    rfl
  | false =>
    obtain ⟨whole, fraction, exponent, isNumeral, same, marked, -⟩ := exists_numeral finite isZero
    refine ⟨whole, fraction, exponent, isNumeral, ?_, ?_⟩
    · rw [same, Bool.not_false, Bool.and_true]
    · rw [marked, Bool.not_false, Bool.true_and]

/-- **The text of a finite number.** The grammar takes it as one number, up to its end, and where it
is a word by itself a value written so is that number; what is read from it, in an expression and in a
context, equals the number. It is a sign where the number is negative, digits, perhaps a fraction, and
an exponent with its sign exactly where a number other than zero reaches `10 ^ 21` or stays below the
number nearest to `10 ^ (-6)`. -/
theorem characters_read_back (finite : x.isFinite = true) :
    takeNumber x.characters = some (x.characters, x.characters.length) ∧
    (∀ rest, EndsWord rest → Takes Grammar.value x.characters rest
      fun written => ∃ extent, written = .number x.characters extent) ∧
    (∃ y : Double, (y == x) = true ∧ parseNumber x.text = some y ∧
      ∀ source extent, (WrittenValue.number x.characters extent).build source = .ok (.number y)) ∧
    ∃ whole fraction exponent, IsNumeral whole fraction exponent ∧
      x.characters = numeral (x.negative && !x.isZero) whole fraction exponent ∧
      ∃ least : Double, least.Nearest (10 ^ (-6 : Int)) ∧
        (exponent.isSome = true ↔ x.size ≠ 0 ∧ (10 ^ 21 ≤ x.size ∨ x.size < least.size)) := by
  have isNumber := numberText_characters finite
  obtain ⟨whole, fraction, exponent, isNumeral, same, marked⟩ := exists_numeral_characters finite
  refine ⟨isNumber.whole, fun rest ends => takes_value_of_number isNumber.whole ends,
    ⟨x.reread, reread_beq finite, parseNumber_text finite, fun source extent => ?_⟩,
    whole, fraction, exponent, isNumeral, same, leastPositional, nearest_leastPositional, ?_⟩
  · rw [WrittenValue.build, isNumber.reads, Option.filter_some, if_pos isNumber.finite]
  · rw [marked, Bool.and_eq_true, usesExponent_iff (isNaN_of_isFinite finite), Ne, size_eq_zero_iff,
      Bool.not_eq_true, Bool.not_eq_true']

/-- The least number above zero has the text `5e-324`. -/
theorem characters_read_back_least :
    (ofBits 1).isFinite = true ∧ (ofBits 1).text = "5e-324" ∧
      ∃ y : Double, (y == ofBits 1) = true ∧ parseNumber "5e-324" = some y := by
  have finite : (ofBits 1).isFinite = true := by decide
  have written : (ofBits 1).text = "5e-324" := by decide +kernel
  obtain ⟨-, -, ⟨y, same, read, -⟩, -⟩ := characters_read_back finite
  exact ⟨finite, written, y, same, by rw [← written, read]⟩

end WhenClause.Double
