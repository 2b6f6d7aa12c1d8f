/-
**Words that are numbers.**

A word is a number of the grammar exactly if it is a numeral (`takeNumber_ne_none_iff`), and the number read
from it is the one nearest to its decimal. In the exponent of the decimal, digits that stand behind a
value above `openExponent` are dropped. That changes the number only in words of more than 65000
characters: in a shorter one the other digits cannot make up for an exponent that has become so great,
and both decimals are rounded to infinity, or to zero (`NumeralText.nearest`).
-/

import WhenClause.Proofs.Nearest
import WhenClause.Proofs.Shortest

namespace WhenClause

open Grammar

variable {digits whole fraction text : List Char} {negative : Bool} {place place' : Int}
  {exponent : Option (Bool × List Char)} {value : Nat}

/-! ### Parts of a number -/

/-- What is measured as a fraction is one. -/
theorem exists_fraction (text : List Char) : ∃ fraction rest, Digits fraction ∧
    text = fractionText fraction ++ rest ∧
      fractionLength text = (fractionText fraction).length := by
  have none' : ∃ fraction rest, Digits fraction ∧ text = fractionText fraction ++ rest ∧
      0 = (fractionText fraction).length := ⟨[], text, List.forall_mem_nil _, rfl, rfl⟩
  unfold fractionLength
  split
  · rename_i rest
    dsimp only
    split
    · exact none'
    · rename_i some'
      have nonempty : rest.takeWhile Char.isDigit ≠ [] := mt List.isEmpty_iff.mpr some'
      refine ⟨rest.takeWhile Char.isDigit, rest.dropWhile Char.isDigit,
        fun c => List.mem_takeWhile_imp, ?_, ?_⟩
      · rw [fractionText, if_neg nonempty, List.cons_append, List.takeWhile_append_dropWhile]
      · rw [fractionText, if_neg nonempty, List.length_cons]
  · exact none'

/-- The sign of an exponent. -/
theorem exists_exponentSign (text : List Char) : ∃ sign rest,
    (sign = [] ∨ sign = ['+'] ∨ sign = ['-']) ∧ text = sign ++ rest ∧
      (if text.head? = some '+' ∨ text.head? = some '-' then 1 else 0) = sign.length := by
  split
  · rename_i signed
    cases text with
    | nil => simp at signed
    | cons c rest =>
      refine ⟨[c], rest, .inr ?_, rfl, rfl⟩
      simpa using signed
  · exact ⟨[], text, .inl rfl, rfl, rfl⟩

/-- What is measured as an exponent is one. -/
theorem exists_exponent (text : List Char) : ∃ exponent behind rest,
    ExponentText exponent behind ∧ (∀ part ∈ exponent, part.2 ≠ [] ∧ Digits part.2) ∧
      text = behind ++ rest ∧ exponentLength text = behind.length := by
  have none' : ∃ exponent behind rest, ExponentText exponent behind ∧
      (∀ part ∈ exponent, part.2 ≠ [] ∧ Digits part.2) ∧ text = behind ++ rest ∧
        0 = behind.length := ⟨none, [], text, .absent, nofun, rfl, rfl⟩
  cases text with
  | nil => exact none'
  | cons mark text =>
    rw [exponentLength]
    split
    · rename_i isMark
      obtain ⟨sign, rest, isSign, rfl, length⟩ := exists_exponentSign text
      dsimp only
      rw [length, List.drop_left]
      split
      · exact none'
      · rename_i some'
        refine ⟨_, mark :: (sign ++ rest.takeWhile Char.isDigit), rest.dropWhile Char.isDigit,
          .marked isMark isSign, ?_, ?_, ?_⟩
        · rintro _ ⟨⟩
          exact ⟨mt List.isEmpty_iff.mpr some', fun c => List.mem_takeWhile_imp⟩
        · rw [List.cons_append, List.append_assoc, List.takeWhile_append_dropWhile]
        · simp only [List.length_cons, List.length_append]
          omega
    · exact none'

/-! ### Words -/

/-- What is taken as a number is a numeral, and behind it a word ends. -/
theorem exists_numeralText {read : List Char × Nat} (taken : takeNumber text = some read) :
    ∃ negative whole fraction exponent front rest,
      NumeralText negative whole fraction exponent front ∧ text = front ++ rest ∧ EndsWord rest := by
  obtain ⟨negative, first, same, sign⟩ : ∃ negative first, text = signText negative ++ first ∧
      (if text.head? = some '-' then 1 else 0) = (signText negative).length := by
    split
    · rename_i signed
      cases text with
      | nil => cases signed
      | cons c first =>
        obtain rfl : c = '-' := Option.some.inj signed
        exact ⟨true, first, rfl, rfl⟩
    · exact ⟨false, text, rfl, rfl⟩
  obtain ⟨whole, second, isWhole, only, front⟩ : ∃ whole second, first = whole ++ second ∧
      Digits whole ∧ first.takeWhile Char.isDigit = whole :=
    ⟨_, _, List.takeWhile_append_dropWhile.symm, fun c => List.mem_takeWhile_imp, rfl⟩
  obtain ⟨fraction, third, only', isFraction, length⟩ := exists_fraction second
  obtain ⟨exponent, behind, rest, isExponent, parts, isBehind, length'⟩ := exists_exponent third
  have behindSign : text.drop (signText negative).length = first := by rw [same, List.drop_left]
  have behindWhole : text.drop ((signText negative).length + whole.length) = second := by
    rw [← List.drop_drop, behindSign, isWhole, List.drop_left]
  have behindFraction : text.drop ((signText negative).length + whole.length +
      (fractionText fraction).length) = third := by
    rw [← List.drop_drop, behindWhole, isFraction, List.drop_left]
  have behindAll : text.drop ((signText negative).length + whole.length +
      (fractionText fraction).length + behind.length) = rest := by
    rw [← List.drop_drop, behindFraction, isBehind, List.drop_left]
  simp only [takeNumber, sign, behindSign, front, behindWhole, length, behindFraction, length', behindAll,
    Option.ite_none_left_eq_some, not_or] at taken
  obtain ⟨⟨some', ends⟩, -⟩ := taken
  refine ⟨negative, whole, fraction, exponent, _, rest,
    .intro ⟨mt List.isEmpty_iff.mpr some', only, only', parts⟩ isExponent, ?_, fun c first => ?_⟩
  · simp only [same, isWhole, isFraction, isBehind, List.append_assoc]
  · simpa [Option.mem_def.mp first] using ends

/-- **A word is a number exactly if it is a numeral.** -/
theorem takeNumber_ne_none_iff (characters : ∀ c ∈ text, isWordCharacter c = true) :
    takeNumber text ≠ none ↔
      ∃ negative whole fraction exponent, NumeralText negative whole fraction exponent text := by
  constructor
  · intro some'
    obtain ⟨read, taken⟩ := Option.ne_none_iff_exists'.mp some'
    obtain ⟨negative, whole, fraction, exponent, front, rest, isText, rfl, ends⟩ :=
      exists_numeralText taken
    have none' : rest = [] := by
      cases rest with
      | nil => rfl
      | cons c rest =>
        have inWord := characters c (List.mem_append_right _ List.mem_cons_self)
        rw [ends c rfl] at inWord
        cases inWord
    rw [none', List.append_nil]
    exact ⟨negative, whole, fraction, exponent, isText⟩
  · rintro ⟨negative, whole, fraction, exponent, isText⟩
    rw [isText.takeNumber]
    exact Option.some_ne_none _

/-! ### Dropped digits of an exponent -/

/-- Where digits of an exponent are dropped, what remains is out of all bounds. -/
theorem openExponent_lt_exponentValue (great : openExponent * 10 + 9 < digitsValue digits) :
    openExponent < exponentValue digits := by
  induction digits using List.reverseRecOn with
  | nil => exact absurd great (by decide)
  | append_singleton digits digit ih =>
    rw [exponentValue_concat]
    split
    · rename_i less
      have small : digitsValue digits ≤ openExponent * 10 + 9 :=
        not_lt.mp fun great' => absurd (ih great') (not_lt.mpr less)
      rw [exponentValue_eq small, ← digitsValue_concat]
      omega
    · rename_i beyond
      exact not_le.mp beyond

theorem digitsValue_lt (only : Digits digits) : digitsValue digits < 10 ^ digits.length := by
  induction digits using List.reverseRecOn with
  | nil => exact Nat.one_pos
  | append_singleton digits digit ih =>
    obtain ⟨only, last⟩ := List.forall_mem_append.mp only
    have less := ih only
    have isDigit := last digit (List.mem_singleton_self digit)
    have small : digit.toNat - '0'.toNat ≤ 9 := by
      simp only [Char.isDigit, Bool.and_eq_true, decide_eq_true_eq, UInt32.le_iff_toNat_le] at isDigit
      have code : digit.toNat ≤ 57 := isDigit.2
      have zero : '0'.toNat = 48 := rfl
      omega
    rw [digitsValue_concat, List.length_append, List.length_singleton, Nat.pow_succ]
    omega

namespace Double

/-- Decimals with great exponents are all infinite, but for zero. -/
theorem ofScaled_eq_of_great (great : 400 < place) (great' : 400 < place') :
    ofScaled negative value place = ofScaled negative value place' := by
  unfold ofScaled
  rw [if_pos great, if_pos great']

/-- Up to `2 ^ (-1076)` decimals are zero. -/
theorem ofScaled_of_le (small : (value * 10 ^ place : ℚ) ≤ 2 ^ (-1076 : Int)) :
    ofScaled negative value place = ofMagnitude negative 0 := by
  obtain ⟨numerator, denominator, positive, parts, rounds⟩ := ofScaled_eq negative value place
  rw [rounds, ofRatio, nearestMagnitude_of_ge positive (by rwa [parts])]

/-- A decimal whose exponent outweighs the number of its digits by far is zero. -/
theorem ofScaled_of_small {count : Nat} (less : value < 10 ^ count) (small : place + count ≤ -400) :
    ofScaled negative value place = ofMagnitude negative 0 := by
  refine ofScaled_of_le ?_
  have ten : (1 : ℚ) ≤ 10 := by norm_num
  have less' : (value : ℚ) ≤ 10 ^ count := by exact_mod_cast less.le
  calc (value * 10 ^ place : ℚ) ≤ 10 ^ count * 10 ^ place :=
        mul_le_mul_of_nonneg_right less' (zpow_pos (by norm_num) _).le
    _ = 10 ^ (place + count) := by
        rw [add_comm, zpow_add₀ (by norm_num), zpow_natCast]
    _ ≤ 10 ^ (-400 : Int) := zpow_le_zpow_right₀ ten small
    _ ≤ (2 ^ (3 : Int)) ^ (-400 : Int) := by
        rw [zpow_neg, zpow_neg]
        refine inv_anti₀ (zpow_pos (by norm_num) _) ?_
        exact zpow_le_zpow_left₀ (by decide) (by norm_num) (by norm_num)
    _ = 2 ^ (-1200 : Int) := (zpow_mul 2 3 (-400)).symm
    _ ≤ 2 ^ (-1076 : Int) := zpow_le_zpow_right₀ one_le_two (by decide)

end Double

/-- Dropped digits of an exponent change no number of at most 65000 digits. -/
theorem ofScaled_keptExponent (only : Digits digits) (few : digits.length ≤ 65000)
    {behind : Nat} (within : behind ≤ digits.length) (negative : Bool)
    (exponent : Option (Bool × List Char)) :
    Double.ofScaled negative (digitsValue digits) (keptExponent exponent - behind) =
      Double.ofScaled negative (digitsValue digits) (exponentPart exponent - behind) := by
  by_cases small : ∀ part ∈ exponent, digitsValue part.2 ≤ openExponent * 10 + 9
  · rw [keptExponent_eq small]
  simp only [not_forall, not_le] at small
  obtain ⟨⟨below, places⟩, rfl, great⟩ := small
  dsimp only at great
  have great' := openExponent_lt_exponentValue great
  unfold openExponent at great great'
  cases below with
  | false =>
    refine Double.ofScaled_eq_of_great ?_ ?_
    · show 400 < (exponentValue places : Int) - behind
      omega
    · show 400 < (digitsValue places : Int) - behind
      omega
  | true =>
    have less := digitsValue_lt only
    rw [Double.ofScaled_of_small less, Double.ofScaled_of_small less]
    · show -(digitsValue places : Int) - behind + digits.length ≤ -400
      omega
    · show -(exponentValue places : Int) - behind + digits.length ≤ -400
      omega

/-! ### The number of a numeral -/

/-- The value of a decimal: digits before and behind the point, and an exponent. -/
def decimalValue (whole fraction : List Char) (exponent : Int) : ℚ :=
  digitsValue (whole ++ fraction) * 10 ^ (exponent - fraction.length)

theorem NumeralText.length_le (isText : NumeralText negative whole fraction exponent text) :
    (whole ++ fraction).length ≤ text.length := by
  obtain @⟨behind, -, -⟩ := isText
  have point : fraction.length ≤ (fractionText fraction).length := by
    unfold fractionText
    split
    · rename_i empty
      rw [empty]
    · exact Nat.le_succ _
  simp only [List.length_append]
  omega

/-- **The number of a numeral is the one nearest to its decimal.** It has the sign of the numeral. The
decimal is the one with the exponent that is written, if no digits of that are dropped or the text is
not very long. -/
theorem NumeralText.nearest (isText : NumeralText negative whole fraction exponent text) :
    ∃ number, Double.read text = some number ∧ number.negative = negative ∧
      number.Nearest (decimalValue whole fraction (keptExponent exponent)) ∧
      ((∀ part ∈ exponent, digitsValue part.2 ≤ openExponent * 10 + 9) ∨ text.length ≤ 65000 →
        number.Nearest (decimalValue whole fraction (exponentPart exponent))) := by
  refine ⟨_, isText.read, ?_, Double.nearest_ofScaled _ _ _, ?_⟩
  · rw [Double.negative_ofScaled]
  have nearest := Double.nearest_ofScaled negative (digitsValue (whole ++ fraction))
    (exponentPart exponent - fraction.length)
  rintro (small | short)
  · rwa [keptExponent_eq small]
  · have only : Digits (whole ++ fraction) := by
      obtain @⟨behind, isNumeral, -⟩ := isText
      exact isNumeral.whole.append isNumeral.fraction
    have few := isText.length_le.trans short
    have within : fraction.length ≤ (whole ++ fraction).length := by
      rw [List.length_append]
      omega
    rwa [ofScaled_keptExponent only few within]

end WhenClause
