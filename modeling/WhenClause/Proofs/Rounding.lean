/-
**Rounding to binary64.**

`nearestMagnitude` takes a quotient as numerator and denominator. What it gives depends on nothing
but the quotient (`nearestMagnitude_congr`), and a quotient that is the absolute value of a number
gives this number (`Double.nearestMagnitude_of_eq`). Both come from `floorLog2_eq_log`: the place to which
is rounded is found from the binary logarithm of the quotient.

Powers of ten that are too great or too small are not formed when a decimal is rounded. Rounding
them would give infinity and zero, too, so a decimal is rounded in the same way in whichever form it
is written (`Double.ofScaled_congr`).
-/

import Mathlib.Data.Int.Log
import Mathlib.Data.Rat.Floor
import Mathlib.Tactic.FieldSimp
import Mathlib.Tactic.Positivity
import Mathlib.Tactic.Ring
import WhenClause.Number.Double

namespace WhenClause

variable {numerator numerator' denominator denominator' : Nat} {x : Double}

/-! ### Quotients -/

/-- A power whose exponent is not negative is formed as a natural number. -/
theorem cast_pow_toNat (base : Nat) {exponent : Int} (upward : 0 ≤ exponent) :
    ((Nat.pow base exponent.toNat : Nat) : ℚ) = (base : ℚ) ^ exponent := by
  obtain ⟨count, rfl⟩ := Int.eq_ofNat_of_zero_le upward
  rw [Int.toNat_natCast, zpow_natCast]
  exact Nat.cast_pow base count

/-- For a negative exponent it is the inverse that is formed. -/
theorem cast_pow_toNat_neg (base : Nat) {exponent : Int} (downward : ¬0 ≤ exponent) :
    ((Nat.pow base (-exponent).toNat : Nat) : ℚ) = ((base : ℚ) ^ exponent)⁻¹ := by
  rw [cast_pow_toNat base (by omega), zpow_neg]

/-- A power times the denominator, or the inverse power times the numerator, tells whether the
quotient reaches the power. -/
theorem reaches_iff {base : Nat} (basePos : 0 < base) (positive : 0 < denominator)
    (exponent : Int) :
    (if 0 ≤ exponent then denominator * Nat.pow base exponent.toNat ≤ numerator
      else denominator ≤ numerator * Nat.pow base (-exponent).toNat) ↔
      (base : ℚ) ^ exponent ≤ numerator / denominator := by
  have positive' : (0 : ℚ) < denominator := by exact_mod_cast positive
  have power : (0 : ℚ) < (base : ℚ) ^ exponent := zpow_pos (by exact_mod_cast basePos) exponent
  rw [le_div_iff₀ positive']
  split
  · rename_i upward
    rw [← cast_pow_toNat base upward, mul_comm]
    exact_mod_cast Iff.rfl
  · rename_i downward
    rw [mul_comm ((base : ℚ) ^ exponent), ← le_mul_inv_iff₀ power, ← cast_pow_toNat_neg base downward]
    exact_mod_cast Iff.rfl

theorem le_log_iff {quotient : ℚ} (positive : 0 < quotient) (exponent : Int) :
    exponent ≤ Int.log 2 quotient ↔ (2 : ℚ) ^ exponent ≤ quotient := by
  simpa using (Int.zpow_le_iff_le_log (R := ℚ) one_lt_two positive (x := exponent)).symm

theorem log_lt_iff {quotient : ℚ} (positive : 0 < quotient) (exponent : Int) :
    Int.log 2 quotient < exponent ↔ quotient < (2 : ℚ) ^ exponent := by
  simpa using (Int.lt_zpow_iff_log_lt (R := ℚ) one_lt_two positive (x := exponent)).symm

/-- **The binary logarithm of a quotient.** The logarithms of both parts fix it up to one. -/
theorem floorLog2_eq_log (positive : 0 < numerator) (positive' : 0 < denominator) :
    floorLog2 numerator denominator = Int.log 2 (numerator / denominator : ℚ) := by
  have quotient : (0 : ℚ) < numerator / denominator := by positivity
  have least : (2 : ℚ) ^ ((numerator.log2 : Int) - denominator.log2 - 1) ≤
      numerator / denominator := by
    have low : (2 : ℚ) ^ numerator.log2 ≤ numerator := by
      exact_mod_cast Nat.log2_self_le positive.ne'
    have high : (denominator : ℚ) ≤ 2 ^ (denominator.log2 + 1) := by
      exact_mod_cast Nat.lt_log2_self.le
    calc (2 : ℚ) ^ ((numerator.log2 : Int) - denominator.log2 - 1)
        = 2 ^ numerator.log2 / 2 ^ (denominator.log2 + 1) := by
          rw [← zpow_natCast, ← zpow_natCast, ← zpow_sub₀ two_ne_zero]
          congr 1
          push_cast
          ring
      _ ≤ numerator / denominator := by gcongr
  have greatest : (numerator / denominator : ℚ) <
      2 ^ ((numerator.log2 : Int) - denominator.log2 + 1) := by
    have high : (numerator : ℚ) < 2 ^ (numerator.log2 + 1) := by
      exact_mod_cast Nat.lt_log2_self
    have low : (2 : ℚ) ^ denominator.log2 ≤ denominator := by
      exact_mod_cast Nat.log2_self_le positive'.ne'
    calc (numerator / denominator : ℚ)
        < 2 ^ (numerator.log2 + 1) / denominator := by gcongr
      _ ≤ 2 ^ (numerator.log2 + 1) / 2 ^ denominator.log2 := by gcongr
      _ = 2 ^ ((numerator.log2 : Int) - denominator.log2 + 1) := by
          rw [← zpow_natCast, ← zpow_natCast, ← zpow_sub₀ two_ne_zero]
          congr 1
          push_cast
          ring
  have below := (log_lt_iff quotient _).mpr greatest
  have above := (le_log_iff quotient _).mpr least
  have reached := (@reaches_iff numerator denominator 2 two_pos positive'
    ((numerator.log2 : Int) - denominator.log2)).trans (le_log_iff quotient _).symm
  unfold floorLog2
  dsimp only
  generalize (numerator.log2 : Int) - denominator.log2 = guess at *
  by_cases holds : guess ≤ Int.log 2 (numerator / denominator : ℚ)
  · rw [if_pos (reached.mpr holds)]
    omega
  · rw [if_neg (mt reached.mp holds)]
    omega

/-! ### Rounding to an integer -/

/-- A common factor makes no difference. -/
theorem roundHalfEven_mul {factor : Nat} (positive : 0 < factor) :
    roundHalfEven (numerator * factor) (denominator * factor) =
      roundHalfEven numerator denominator := by
  have twice : 2 * (numerator % denominator * factor) = 2 * (numerator % denominator) * factor :=
    (Nat.mul_assoc _ _ _).symm
  unfold roundHalfEven
  simp only [Nat.mul_div_mul_right _ _ positive, Nat.mul_mod_mul_right, twice, gt_iff_lt,
    Nat.mul_lt_mul_right positive, Nat.mul_left_inj positive.ne']

theorem roundHalfEven_congr (positive : 0 < denominator) (positive' : 0 < denominator')
    (same : (numerator / denominator : ℚ) = numerator' / denominator') :
    roundHalfEven numerator denominator = roundHalfEven numerator' denominator' := by
  have cross : numerator * denominator' = numerator' * denominator := by
    rw [div_eq_div_iff (by positivity) (by positivity)] at same
    exact_mod_cast same
  calc roundHalfEven numerator denominator
      = roundHalfEven (numerator * denominator') (denominator * denominator') :=
        (roundHalfEven_mul positive').symm
    _ = roundHalfEven (numerator' * denominator) (denominator' * denominator) := by
        rw [cross, Nat.mul_comm denominator]
    _ = roundHalfEven numerator' denominator' := roundHalfEven_mul positive

/-- An integer is rounded to itself. -/
theorem roundHalfEven_of_eq {value : Nat} (positive : 0 < denominator)
    (same : (numerator / denominator : ℚ) = value) :
    roundHalfEven numerator denominator = value := by
  have whole : roundHalfEven value 1 = value := by
    unfold roundHalfEven
    rw [Nat.div_one, Nat.mod_one, if_neg (by omega)]
  rw [← whole]
  exact roundHalfEven_congr positive one_pos (by rw [same, Nat.cast_one, div_one])

/-- What reaches an integer is not rounded below it. -/
theorem le_roundHalfEven {value : Nat} (positive : 0 < denominator)
    (reaches : (value : ℚ) ≤ numerator / denominator) :
    value ≤ roundHalfEven numerator denominator := by
  rw [le_div_iff₀ (by positivity)] at reaches
  have below : value ≤ numerator / denominator :=
    (Nat.le_div_iff_mul_le positive).mpr (by exact_mod_cast reaches)
  unfold roundHalfEven
  dsimp only
  split <;> omega

/-- What does not exceed an integer is not rounded above it. -/
theorem roundHalfEven_le {value : Nat} (positive : 0 < denominator)
    (reaches : (numerator / denominator : ℚ) ≤ value) :
    roundHalfEven numerator denominator ≤ value := by
  rw [div_le_iff₀ (by positivity)] at reaches
  have atMost : numerator ≤ value * denominator := by exact_mod_cast reaches
  have parts := Nat.div_add_mod numerator denominator
  have below : numerator / denominator ≤ value :=
    Nat.div_le_of_le_mul (by rwa [Nat.mul_comm])
  unfold roundHalfEven
  dsimp only
  split
  · rename_i upward
    -- where the quotient is the integer itself nothing is left to be rounded
    refine Nat.lt_of_le_of_ne below fun same => ?_
    rw [same, Nat.mul_comm] at parts
    omega
  · exact below

/-- What is less than a half is rounded to zero. -/
theorem roundHalfEven_eq_zero (positive : 0 < denominator)
    (less : (numerator / denominator : ℚ) < 1 / 2) : roundHalfEven numerator denominator = 0 := by
  rw [div_lt_div_iff₀ (by positivity) two_pos, one_mul] at less
  have less' : numerator * 2 < denominator := by exact_mod_cast less
  unfold roundHalfEven
  rw [Nat.div_eq_of_lt (by omega), Nat.mod_eq_of_lt (by omega), if_neg (by omega)]

/-! ### Rounding to a magnitude -/

/-- The quotient in units of `2 ^ place`, rounded. -/
def roundAt (numerator denominator : Nat) (place : Int) : Nat :=
  if 0 ≤ place then roundHalfEven numerator (denominator * Nat.pow 2 place.toNat)
  else roundHalfEven (numerator * Nat.pow 2 (-place).toNat) denominator

/-- The last binary place of the number nearest to a quotient. -/
def lastPlace (numerator denominator : Nat) : Int :=
  max (floorLog2 numerator denominator - 52) (-1074)

theorem nearestMagnitude_eq (positive : 0 < numerator) :
    nearestMagnitude numerator denominator =
      min ((lastPlace numerator denominator + 1074).toNat * 0x10000000000000 +
        roundAt numerator denominator (lastPlace numerator denominator)) infinityMagnitude := by
  rw [nearestMagnitude, if_neg positive.ne']
  rfl

theorem nearestMagnitude_zero (denominator : Nat) : nearestMagnitude 0 denominator = 0 := by
  rw [nearestMagnitude, if_pos rfl]

/-- Rounding at a place is rounding a quotient that is smaller by a power of two. -/
theorem exists_roundAt (positive : 0 < denominator) (place : Int) :
    ∃ above below : Nat, 0 < below ∧ roundAt numerator denominator place = roundHalfEven above below ∧
      (above / below : ℚ) = numerator / denominator / 2 ^ place := by
  unfold roundAt
  split
  · rename_i upward
    have power : 0 < Nat.pow 2 place.toNat := Nat.two_pow_pos _
    refine ⟨_, _, Nat.mul_pos positive power, rfl, ?_⟩
    rw [Nat.cast_mul, cast_pow_toNat 2 upward, div_div]
    rfl
  · rename_i downward
    refine ⟨_, _, positive, rfl, ?_⟩
    rw [Nat.cast_mul, cast_pow_toNat_neg 2 downward, mul_div_right_comm, ← div_eq_mul_inv]
    rfl

/-- **What is rounded to a magnitude** is the quotient in units of its last binary place, which is
found from the logarithm of the quotient. -/
theorem exists_nearestMagnitude (positive : 0 < numerator) (positive' : 0 < denominator)
    {place : Int} (last : max (Int.log 2 (numerator / denominator : ℚ) - 52) (-1074) = place) :
    ∃ above below : Nat, 0 < below ∧ (above / below : ℚ) = numerator / denominator / 2 ^ place ∧
      nearestMagnitude numerator denominator =
        min ((place + 1074).toNat * 0x10000000000000 + roundHalfEven above below)
          infinityMagnitude := by
  rw [← floorLog2_eq_log positive positive'] at last
  obtain ⟨above, below, first, rounded, parts⟩ := @exists_roundAt numerator _ positive' place
  refine ⟨above, below, first, parts, ?_⟩
  rw [nearestMagnitude_eq positive, lastPlace, last, rounded]

/-- **Rounding depends on nothing but the quotient.** -/
theorem nearestMagnitude_congr (positive : 0 < denominator) (positive' : 0 < denominator')
    (same : (numerator / denominator : ℚ) = numerator' / denominator') :
    nearestMagnitude numerator denominator = nearestMagnitude numerator' denominator' := by
  have zero : numerator = 0 ↔ numerator' = 0 := by
    have quotients : (numerator / denominator : ℚ) = 0 ↔ (numerator' / denominator' : ℚ) = 0 := by
      rw [same]
    rw [div_eq_zero_iff, div_eq_zero_iff, or_iff_left (by positivity), or_iff_left (by positivity)]
      at quotients
    exact_mod_cast quotients
  rcases Nat.eq_zero_or_pos numerator with empty | some'
  · rw [empty, zero.mp empty, nearestMagnitude_zero, nearestMagnitude_zero]
  · have some'' : 0 < numerator' := Nat.pos_of_ne_zero (mt zero.mpr some'.ne')
    obtain ⟨above, below, first, parts, rounded⟩ := exists_nearestMagnitude some' positive rfl
    obtain ⟨above', below', first', parts', rounded'⟩ :=
      exists_nearestMagnitude some'' positive' (by rw [← same])
    rw [rounded, rounded', roundHalfEven_congr first first' (by rw [parts, parts', same])]

/-! ### Great and small quotients -/

/-- A quotient is rounded to no less than the normal powers of two that it reaches. -/
theorem le_nearestMagnitude {exponent : Int} (positive : 0 < denominator)
    (normal : -1022 ≤ exponent) (reaches : (2 : ℚ) ^ exponent ≤ numerator / denominator) :
    min ((exponent + 1023).toNat * 0x10000000000000) infinityMagnitude ≤
      nearestMagnitude numerator denominator := by
  have quotient : (0 : ℚ) < numerator / denominator :=
    lt_of_lt_of_le (zpow_pos two_pos exponent) reaches
  have some' : 0 < numerator := by
    refine Nat.pos_of_ne_zero fun zero => ?_
    rw [zero, Nat.cast_zero, zero_div] at quotient
    exact lt_irrefl _ quotient
  have log := (le_log_iff quotient exponent).mpr reaches
  obtain ⟨above, below, first, parts, rounded⟩ :=
    exists_nearestMagnitude some' positive (max_eq_left (by omega))
  have full : 2 ^ 52 ≤ roundHalfEven above below := by
    refine le_roundHalfEven first ?_
    have reached := (le_log_iff quotient _).mp (le_refl _)
    rw [parts, le_div_iff₀ (zpow_pos two_pos _)]
    refine le_trans (le_of_eq ?_) reached
    rw [zpow_sub₀ two_ne_zero]
    push_cast
    field_simp
  rw [rounded]
  exact min_le_min_right _ (by omega)

/-- From `2 ^ 1024` on everything is infinite. -/
theorem nearestMagnitude_of_le (positive : 0 < denominator)
    (great : (2 : ℚ) ^ (1024 : Int) ≤ numerator / denominator) :
    nearestMagnitude numerator denominator = infinityMagnitude := by
  have atLeast : infinityMagnitude ≤ nearestMagnitude numerator denominator :=
    le_nearestMagnitude positive (by decide) great
  refine Nat.le_antisymm ?_ atLeast
  unfold nearestMagnitude
  split
  · exact Nat.zero_le _
  · exact Nat.min_le_right _ _

/-- Below `2 ^ 1023` everything is finite. -/
theorem nearestMagnitude_lt (positive : 0 < denominator)
    (less : (numerator / denominator : ℚ) < 2 ^ (1023 : Int)) :
    nearestMagnitude numerator denominator < infinityMagnitude := by
  rcases Nat.eq_zero_or_pos numerator with rfl | some'
  · rw [nearestMagnitude_zero]
    decide
  have quotient : (0 : ℚ) < numerator / denominator := by positivity
  have log := (log_lt_iff quotient 1023).mpr less
  obtain ⟨place, last⟩ : ∃ place,
      max (Int.log 2 (numerator / denominator : ℚ) - 52) (-1074) = place := ⟨_, rfl⟩
  obtain ⟨above, below, first, parts, rounded⟩ := exists_nearestMagnitude some' positive last
  have few : roundHalfEven above below ≤ 2 ^ 53 := by
    have inBinade := (log_lt_iff quotient (53 + place)).mp (by omega)
    refine roundHalfEven_le first ?_
    rw [parts, div_le_iff₀ (zpow_pos two_pos _)]
    refine inBinade.le.trans (le_of_eq ?_)
    rw [zpow_add₀ two_ne_zero]
    push_cast
    rfl
  rw [rounded]
  refine lt_of_le_of_lt (Nat.min_le_left _ _) ?_
  unfold infinityMagnitude
  omega

/-- Up to `2 ^ (-1076)` everything is zero. -/
theorem nearestMagnitude_of_ge (positive : 0 < denominator)
    (small : (numerator / denominator : ℚ) ≤ 2 ^ (-1076 : Int)) :
    nearestMagnitude numerator denominator = 0 := by
  rcases Nat.eq_zero_or_pos numerator with rfl | some'
  · exact nearestMagnitude_zero denominator
  have quotient : (0 : ℚ) < numerator / denominator := by positivity
  have log : Int.log 2 (numerator / denominator : ℚ) < -1022 :=
    (log_lt_iff quotient _).mpr
      (lt_of_le_of_lt small (zpow_lt_zpow_right₀ one_lt_two (by decide)))
  obtain ⟨above, below, first, parts, rounded⟩ :=
    exists_nearestMagnitude some' positive (max_eq_right (by omega))
  have zero : roundHalfEven above below = 0 := by
    refine roundHalfEven_eq_zero first ?_
    rw [parts, div_lt_iff₀ (zpow_pos two_pos _)]
    refine lt_of_le_of_lt small ?_
    rw [show (-1076 : Int) = -2 + -1074 from rfl, zpow_add₀ two_ne_zero]
    refine mul_lt_mul_of_pos_right ?_ (zpow_pos two_pos _)
    norm_num
  rw [rounded, zero]
  rfl

/-! ### Numbers -/

namespace Double

theorem significand_lt (x : Double) : x.significand < 2 ^ 53 := by
  unfold significand
  have := Nat.mod_lt x.magnitude.val (show 0 < 0x10000000000000 by decide)
  dsimp only
  split <;> omega

theorem le_exponent (x : Double) : -1074 ≤ x.exponent := by
  unfold exponent
  dsimp only
  split <;> omega

/-- Below the least normal number the last binary place is the least one. -/
theorem exponent_eq_or_le (x : Double) : x.exponent = -1074 ∨ 2 ^ 52 ≤ x.significand := by
  unfold exponent significand
  dsimp only
  split
  · exact .inl rfl
  · exact .inr (Nat.le_add_right _ _)

/-- The magnitude counts the numbers below, binade by binade. -/
theorem magnitude_eq (x : Double) :
    x.magnitude.val = (x.exponent + 1074).toNat * 0x10000000000000 + x.significand := by
  have parts := Nat.div_add_mod x.magnitude.val 0x10000000000000
  unfold exponent significand
  dsimp only
  split
  · rename_i zero
    rw [zero] at parts
    omega
  · rename_i some'
    rw [show ((x.magnitude.val / 0x10000000000000 : Nat) : Int) - 1075 + 1074 =
      ((x.magnitude.val / 0x10000000000000 - 1 : Nat) : Int) by omega, Int.toNat_natCast]
    omega

/-- **A quotient that is the absolute value of a finite number is rounded to it.** -/
theorem nearestMagnitude_of_eq (finite : x.isFinite = true) (positive : 0 < denominator)
    (same : (numerator / denominator : ℚ) = x.significand * 2 ^ x.exponent) :
    nearestMagnitude numerator denominator = x.magnitude.val := by
  have less : x.magnitude.val ≤ infinityMagnitude := by
    unfold isFinite at finite
    exact (of_decide_eq_true finite).le
  rcases Nat.eq_zero_or_pos numerator with rfl | some'
  · have zero : x.significand = 0 := by
      rw [Nat.cast_zero, zero_div, eq_comm, mul_eq_zero] at same
      exact_mod_cast same.resolve_right (zpow_pos two_pos _).ne'
    have least := x.exponent_eq_or_le
    rw [zero] at least
    rw [nearestMagnitude_zero, x.magnitude_eq, zero, least.resolve_right (by decide)]
    rfl
  have quotient : (0 : ℚ) < x.significand * 2 ^ x.exponent := by
    rw [← same]
    positivity
  have below : Int.log 2 (x.significand * 2 ^ x.exponent : ℚ) < x.exponent + 53 := by
    rw [log_lt_iff quotient, zpow_add₀ two_ne_zero, mul_comm]
    refine mul_lt_mul_of_pos_left ?_ (zpow_pos two_pos _)
    exact_mod_cast x.significand_lt
  have above : 2 ^ 52 ≤ x.significand →
      x.exponent + 52 ≤ Int.log 2 (x.significand * 2 ^ x.exponent : ℚ) := by
    intro normal
    rw [le_log_iff quotient, zpow_add₀ two_ne_zero, mul_comm]
    refine mul_le_mul_of_nonneg_right ?_ (zpow_pos two_pos _).le
    exact_mod_cast normal
  have last : max (Int.log 2 (numerator / denominator : ℚ) - 52) (-1074) = x.exponent := by
    rw [same]
    have least := x.le_exponent
    rcases x.exponent_eq_or_le with same | normal
    · omega
    · have := above normal
      omega
  obtain ⟨upper, lower, first, parts, rounded⟩ := exists_nearestMagnitude some' positive last
  rw [same, mul_div_cancel_right₀ _ (zpow_pos two_pos _).ne'] at parts
  rw [rounded, roundHalfEven_of_eq first parts, ← x.magnitude_eq]
  exact Nat.min_eq_left less

/-! ### Decimals -/

/-- A decimal with an exponent of at least `401` is not finite as a number. -/
theorem two_pow_le_of_great {digits : Nat} {exponent : Int} (some' : digits ≠ 0)
    (great : 401 ≤ exponent) : (2 : ℚ) ^ (1024 : Int) ≤ digits * 10 ^ exponent := by
  have least : (1 : ℚ) ≤ digits := by exact_mod_cast Nat.pos_of_ne_zero some'
  calc (2 : ℚ) ^ (1024 : Int) ≤ 2 ^ (3 * 401 : Int) :=
        zpow_le_zpow_right₀ one_le_two (by decide)
    _ = (2 ^ (3 : Int)) ^ (401 : Int) := zpow_mul 2 3 401
    _ ≤ 10 ^ (401 : Int) := zpow_le_zpow_left₀ (by decide) (by norm_num) (by norm_num)
    _ ≤ 10 ^ exponent := zpow_le_zpow_right₀ (by norm_num) great
    _ ≤ digits * 10 ^ exponent := le_mul_of_one_le_left (zpow_pos (by norm_num) _).le least

/-- A decimal is less than a power of two, as `8 < 10`. -/
theorem le_two_pow_of_negative {exponent : Int} (negative : exponent ≤ 0) (digits : Nat) :
    (digits * 10 ^ exponent : ℚ) ≤ 2 ^ ((digits.log2 : Int) + 1 + 3 * exponent) := by
  have high : (digits : ℚ) ≤ 2 ^ ((digits.log2 : Int) + 1) := by
    exact_mod_cast (@Nat.lt_log2_self digits).le
  have power : (10 : ℚ) ^ exponent ≤ (2 ^ (3 : Int)) ^ exponent := by
    obtain ⟨count, same⟩ := Int.eq_ofNat_of_zero_le (show 0 ≤ -exponent by omega)
    rw [show exponent = -count by omega, zpow_neg, zpow_neg]
    refine inv_anti₀ (zpow_pos (by norm_num) _) ?_
    exact zpow_le_zpow_left₀ (Int.natCast_nonneg _) (by norm_num) (by norm_num)
  calc (digits * 10 ^ exponent : ℚ)
      ≤ 2 ^ ((digits.log2 : Int) + 1) * (2 ^ (3 : Int)) ^ exponent :=
        mul_le_mul high power (zpow_pos (by norm_num) _).le (zpow_pos two_pos _).le
    _ = 2 ^ ((digits.log2 : Int) + 1 + 3 * exponent) := by
        rw [← zpow_mul, ← zpow_add₀ two_ne_zero]

/-- **A decimal is rounded as the quotient that it is**, also where no power of ten is formed. -/
theorem ofScaled_eq (negative : Bool) (digits : Nat) (exponent : Int) :
    ∃ numerator denominator : Nat, 0 < denominator ∧
      (numerator / denominator : ℚ) = digits * 10 ^ exponent ∧
      ofScaled negative digits exponent = ofRatio negative numerator denominator := by
  have upward : 0 ≤ exponent →
      ((digits * Nat.pow 10 exponent.toNat : Nat) / (1 : Nat) : ℚ) = digits * 10 ^ exponent := by
    intro upward
    rw [Nat.cast_mul, cast_pow_toNat 10 upward, Nat.cast_one, div_one]
    rfl
  have downward : ¬0 ≤ exponent →
      (digits / (Nat.pow 10 (-exponent).toNat : Nat) : ℚ) = digits * 10 ^ exponent := by
    intro downward
    rw [cast_pow_toNat_neg 10 downward, div_inv_eq_mul]
    rfl
  unfold ofScaled ofRatio
  split
  · rename_i zero
    refine ⟨0, 1, one_pos, ?_, ?_⟩
    · rw [zero, Nat.cast_zero, zero_div, zero_mul]
    · rw [nearestMagnitude_zero]
  rename_i some'
  split
  · rename_i great
    have parts := upward (by omega)
    refine ⟨_, 1, one_pos, parts, ?_⟩
    rw [nearestMagnitude_of_le one_pos (by rw [parts]; exact two_pow_le_of_great some' great)]
  split
  · rename_i upward'
    exact ⟨_, 1, one_pos, upward upward', rfl⟩
  rename_i downward'
  have parts := downward downward'
  have positive : 0 < Nat.pow 10 (-exponent).toNat := Nat.pow_pos (by decide)
  refine ⟨_, _, positive, parts, ?_⟩
  split
  · rename_i small
    have less : (digits * 10 ^ exponent : ℚ) ≤ 2 ^ (-1076 : Int) :=
      (le_two_pow_of_negative (by omega) digits).trans
        (zpow_le_zpow_right₀ one_le_two (by omega))
    rw [nearestMagnitude_of_ge positive (by rw [parts]; exact less)]
  · rfl

/-- **A decimal is rounded in the same way in whichever form it is written.** -/
theorem ofScaled_congr {digits digits' : Nat} {exponent exponent' : Int}
    (same : (digits * 10 ^ exponent : ℚ) = digits' * 10 ^ exponent') (negative : Bool) :
    ofScaled negative digits exponent = ofScaled negative digits' exponent' := by
  obtain ⟨numerator, denominator, positive, parts, rounds⟩ :=
    ofScaled_eq negative digits exponent
  obtain ⟨numerator', denominator', positive', parts', rounds'⟩ :=
    ofScaled_eq negative digits' exponent'
  have magnitudes := nearestMagnitude_congr positive positive' (by rw [parts, parts', same])
  rw [rounds, rounds', ofRatio, magnitudes]
  rfl

end Double

end WhenClause
