/-
**Numbers that a context can hold.**

A number of a context is an integer of 64 bits or a finite binary64 number (`Representable`). What is
read from JSON text is: digits are collected as long as they fit 64 bits, a product that has become
infinite is refused, and a quotient by a power of ten is no greater than what is divided.

* `Double.isFinite_ofRatio`: below `2 ^ 1023` quotients are rounded to finite numbers;
* `isFinite_scale`: a scaled number is finite, or refused;
* `representable_of_read`: numbers read from JSON text are representable.
-/

import WhenClause.Json.Number
import WhenClause.Proofs.Rounding

namespace WhenClause

variable {x y : Double} {value : Int} {numerator denominator : Nat} {negative : Bool}

/-! ### Finite numbers -/

namespace Double

/-- Quotients below `2 ^ 1023` are rounded to finite numbers. -/
theorem isFinite_ofRatio (positive : 0 < denominator)
    (less : (numerator / denominator : ℚ) < 2 ^ (1023 : Int)) :
    (ofRatio negative numerator denominator).isFinite = true := by
  have finite := nearestMagnitude_lt positive less
  have magnitude : (ofRatio negative numerator denominator).magnitude.val =
      nearestMagnitude numerator denominator := Nat.min_eq_left finite.le
  rw [isFinite, magnitude]
  exact decide_eq_true finite

/-- What is rounded is finite or infinite, and never NaN. -/
theorem isFinite_of_not_isInfinite
    (isFinite' : (ofRatio negative numerator denominator).isInfinite = false) :
    (ofRatio negative numerator denominator).isFinite = true := by
  have atMost : (ofRatio negative numerator denominator).magnitude.val ≤ infinityMagnitude :=
    Nat.min_le_right _ _
  have differs : (ofRatio negative numerator denominator).magnitude.val ≠ infinityMagnitude :=
    beq_eq_false_iff_ne.mp isFinite'
  exact decide_eq_true (Nat.lt_of_le_of_ne atMost differs)

/-- An integer of 64 bits, signed or not, is rounded to a finite number. -/
theorem isFinite_ofInt (within : value.natAbs ≤ 2 ^ 64) : (ofInt value).isFinite = true := by
  refine isFinite_ofRatio one_pos ?_
  have within' : (value.natAbs : ℚ) ≤ 2 ^ 64 := by exact_mod_cast within
  rw [Nat.cast_one, div_one]
  calc (value.natAbs : ℚ) ≤ 2 ^ 64 := within'
    _ = 2 ^ (64 : Int) := (zpow_natCast 2 64).symm
    _ < 2 ^ (1023 : Int) := zpow_lt_zpow_right₀ one_lt_two (by decide)

theorem ratio_pos (x : Double) : 0 < x.ratio.2 := by
  unfold ratio
  split
  · exact one_pos
  · exact Nat.pow_pos two_pos

theorem ratio_eq (x : Double) : (x.ratio.1 / x.ratio.2 : ℚ) = x.significand * 2 ^ x.exponent := by
  unfold ratio
  split
  · rename_i upward
    have power := cast_pow_toNat 2 upward
    dsimp only
    rw [Nat.cast_mul, power, Nat.cast_one, div_one]
    norm_cast
  · rename_i downward
    have power := cast_pow_toNat_neg 2 downward
    dsimp only
    rw [power, div_inv_eq_mul]
    norm_cast

theorem ratio_lt (finite : x.isFinite = true) : (x.ratio.1 / x.ratio.2 : ℚ) < 2 ^ (1024 : Int) := by
  have below : x.magnitude.val < infinityMagnitude := of_decide_eq_true finite
  have place : x.exponent ≤ 971 := by
    have whole := x.magnitude_eq
    unfold infinityMagnitude at below
    rcases x.exponent_eq_or_le with least | normal <;> omega
  have digits : (x.significand : ℚ) < 2 ^ (53 : Int) := by exact_mod_cast x.significand_lt
  rw [ratio_eq]
  calc (x.significand * 2 ^ x.exponent : ℚ) < 2 ^ (53 : Int) * 2 ^ x.exponent :=
        mul_lt_mul_of_pos_right digits (zpow_pos two_pos _)
    _ = 2 ^ (53 + x.exponent) := (zpow_add₀ two_ne_zero _ _).symm
    _ ≤ 2 ^ (1024 : Int) := zpow_le_zpow_right₀ one_le_two (by omega)

/-- The magnitudes from that of two on are those of two and more. -/
theorem two_le_ratio (great : 0x4000000000000000 ≤ x.magnitude.val) :
    (2 : ℚ) ≤ x.ratio.1 / x.ratio.2 := by
  have whole := x.magnitude_eq
  have digits := x.significand_lt
  have normal : 2 ^ 52 ≤ x.significand := x.exponent_eq_or_le.resolve_left fun least => by omega
  have place : -51 ≤ x.exponent := by omega
  have normal' : (2 : ℚ) ^ (52 : Int) ≤ x.significand := by exact_mod_cast normal
  rw [ratio_eq]
  calc (2 : ℚ) = 2 ^ (52 : Int) * 2 ^ (-51 : Int) := by
        rw [← zpow_add₀ two_ne_zero]
        rfl
    _ ≤ x.significand * 2 ^ x.exponent :=
        mul_le_mul normal' (zpow_le_zpow_right₀ one_le_two place) (zpow_pos two_pos _).le
          (Nat.cast_nonneg _)

/-- A quotient by two or more is finite. -/
theorem isFinite_dividedBy (finite : x.isFinite = true)
    (atLeast : (2 : ℚ) ≤ y.ratio.1 / y.ratio.2) : (x.dividedBy y).isFinite = true := by
  have positive : 0 < y.ratio.1 := by
    refine Nat.pos_of_ne_zero fun zero => ?_
    rw [zero, Nat.cast_zero, zero_div] at atLeast
    exact absurd atLeast (by norm_num)
  have half : (y.ratio.2 / y.ratio.1 : ℚ) ≤ 2⁻¹ := by
    rw [← inv_div]
    exact inv_anti₀ two_pos atLeast
  refine isFinite_ofRatio (Nat.mul_pos x.ratio_pos positive) ?_
  rw [Nat.cast_mul, Nat.cast_mul, mul_div_mul_comm]
  calc (x.ratio.1 / x.ratio.2 * (y.ratio.2 / y.ratio.1) : ℚ)
      ≤ x.ratio.1 / x.ratio.2 * 2⁻¹ := mul_le_mul_of_nonneg_left half (by positivity)
    _ < 2 ^ (1024 : Int) * 2⁻¹ := mul_lt_mul_of_pos_right (ratio_lt finite) (by norm_num)
    _ = 2 ^ (1023 : Int) := (zpow_sub_one₀ two_ne_zero _).symm

end Double

/-! ### Numbers of contexts -/

namespace JsonNumber

variable {number : JsonNumber} {text rest : List Char} {exponent : Int} {digits dropped : Nat}

/-- A number that a context can hold: an integer of 64 bits, signed or unsigned, or a finite
binary64 number. -/
def Representable : JsonNumber → Prop
  | .integer value => -2 ^ 63 ≤ value ∧ value < 2 ^ 64
  | .double value => value.isFinite = true

theorem Representable.natAbs_le (representable : (integer value).Representable) :
    value.natAbs ≤ 2 ^ 64 := by
  obtain ⟨above, below⟩ := representable
  omega

theorem Representable.isFinite (representable : number.Representable) :
    number.toDouble.isFinite = true := by
  cases number with
  | integer value => exact Double.isFinite_ofInt representable.natAbs_le
  | double value => exact representable

/-! ### Scaling -/

/-- Powers of ten are rounded to two or more. -/
theorem two_le_powerOfTen {exponent : Nat} (some' : 0 < exponent) :
    (2 : ℚ) ≤ (powerOfTen exponent).ratio.1 / (powerOfTen exponent).ratio.2 := by
  obtain ⟨numerator, denominator, positive, parts, rounds⟩ :=
    Double.ofScaled_eq false 1 (exponent : Int)
  have reaches : (2 : ℚ) ^ (1 : Int) ≤ numerator / denominator := by
    rw [parts, Nat.cast_one, one_mul]
    calc (2 : ℚ) ^ (1 : Int) ≤ 10 ^ (1 : Int) := by norm_num
      _ ≤ 10 ^ (exponent : Int) := zpow_le_zpow_right₀ (by norm_num) (by omega)
  have least := le_nearestMagnitude positive (by decide) reaches
  have magnitude : (powerOfTen exponent).magnitude.val =
      min (nearestMagnitude numerator denominator) infinityMagnitude := by
    rw [powerOfTen, rounds]
    rfl
  refine Double.two_le_ratio ?_
  rw [magnitude]
  exact le_min least (by decide)

/-- **A scaled number is finite, or refused.** -/
theorem isFinite_scale (finite : x.isFinite = true) (run : scale x exponent = some y) :
    y.isFinite = true := by
  induction x, exponent using scale.induct with
  | case1 x exponent great zero =>
    rw [scale, if_pos great, if_pos zero] at run
    cases run
    exact finite
  | case2 x exponent great some' =>
    rw [scale, if_pos great, if_neg some'] at run
    cases run
  | case3 x exponent notGreat upward product infinite =>
    rw [scale, if_neg notGreat, if_pos upward] at run
    exact absurd run (by rw [if_pos infinite]; nofun)
  | case4 x exponent notGreat upward product notInfinite =>
    rw [scale, if_neg notGreat, if_pos upward] at run
    have same : product = y := Option.some.inj ((if_neg notInfinite).symm.trans run)
    rw [← same]
    exact Double.isFinite_of_not_isInfinite (Bool.eq_false_iff.mpr notInfinite)
  | case5 x exponent notGreat downward few =>
    rw [scale, if_neg notGreat, if_neg downward, if_pos few] at run
    cases run
    exact Double.isFinite_dividedBy finite (two_le_powerOfTen (by omega))
  | case6 x exponent notGreat downward small zero =>
    rw [scale, if_neg notGreat, if_neg downward, if_neg small, if_pos zero] at run
    cases run
    exact finite
  | case7 x exponent notGreat downward small some' ih =>
    rw [scale, if_neg notGreat, if_neg downward, if_neg small, if_neg some'] at run
    exact ih (Double.isFinite_dividedBy finite (two_le_powerOfTen (by decide))) run

theorem representable_ofParts (within : digits ≤ unsignedMax)
    (run : ofParts negative digits exponent = some number) : number.Representable := by
  obtain ⟨scaled, scales, rfl⟩ := Option.map_eq_some_iff.mp run
  have whole : (digits : Int).natAbs ≤ 2 ^ 64 := by
    rw [Int.natAbs_natCast]
    exact within.trans (by decide)
  have finite : scaled.isFinite = true := isFinite_scale (Double.isFinite_ofInt whole) scales
  -- the sign does not bear on the magnitude
  exact finite

theorem representable_of_map_ofParts {text : List Char} (within : digits ≤ unsignedMax)
    (run : (ofParts negative digits exponent).map (·, text) = some (number, rest)) :
    number.Representable := by
  obtain ⟨number', parts, same⟩ := Option.map_eq_some_iff.mp run
  obtain ⟨rfl, -⟩ := Prod.mk.inj same
  exact representable_ofParts within parts

/-! ### Reading -/

theorem collect_le {collected taken : Nat} (within : collected ≤ unsignedMax) (text : List Char) :
    (collect collected taken text).1 ≤ unsignedMax := by
  induction text generalizing collected taken with
  | nil => exact within
  | cons c text ih =>
    unfold collect
    dsimp only
    split
    · rename_i next
      exact ih next.2
    · exact within

theorem representable_readScaled (within : digits ≤ unsignedMax)
    (run : readScaled negative digits exponent text = some (number, rest)) :
    number.Representable := by
  unfold readScaled at run
  split at run
  · exact representable_of_map_ofParts within run
  · split at run
    · dsimp only at run
      split at run
      · cases run
      · split at run
        · split at run
          · cases run
          · cases run
            exact show Double.isFinite _ = true from by cases negative <;> decide
        · exact representable_of_map_ofParts within run
    · exact representable_of_map_ofParts within run

theorem representable_readFraction (within : digits ≤ unsignedMax)
    (run : readFraction negative digits exponent text = some (number, rest)) :
    number.Representable := by
  unfold readFraction at run
  dsimp only at run
  split at run
  · cases run
  · exact representable_readScaled (collect_le within _) run

theorem representable_ofDigits (within : digits ≤ unsignedMax) :
    (ofDigits negative digits).Representable := by
  have below : digits < 2 ^ 64 := Nat.lt_of_le_of_lt within (by decide)
  unfold ofDigits
  split
  · exact ⟨by omega, by omega⟩
  · split
    · have whole : (digits : Int).natAbs ≤ 2 ^ 64 := by omega
      exact Double.isFinite_ofInt whole
    · exact ⟨by omega, by omega⟩

theorem representable_readBehindWhole (within : digits ≤ unsignedMax)
    (run : readBehindWhole negative digits dropped text = some (number, rest)) :
    number.Representable := by
  unfold readBehindWhole at run
  split at run
  · exact representable_readFraction within run
  · exact representable_readScaled within run
  · exact representable_readScaled within run
  · split at run
    · cases run
      exact representable_ofDigits within
    · exact representable_of_map_ofParts within run

/-- **A number that is read from JSON text is representable.** -/
theorem representable_of_read (run : read text = some (number, rest)) : number.Representable := by
  have unsigned : ∀ {negative : Bool} {text : List Char},
      readUnsigned negative text = some (number, rest) → number.Representable := by
    intro negative text run
    unfold readUnsigned at run
    split at run
    · split at run
      · exact representable_readBehindWhole (Nat.zero_le _) run
      · cases run
    · dsimp only at run
      split at run
      · cases run
      · exact representable_readBehindWhole (collect_le (Nat.zero_le _) _) run
  unfold read at run
  split at run
  · exact unsigned run
  · exact unsigned run

end JsonNumber

end WhenClause
