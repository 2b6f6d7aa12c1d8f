/-
**What is nearest to a value.**

`Double.size` is the absolute value of a number. The infinities stand at `2 ^ 1024`, the power of two
behind the greatest finite number. Sizes are ordered as magnitudes are (`size_lt_size_iff`).

A number is `Nearest` to a value if no other number is closer, and if one of two that are equally
close has an even magnitude. Of two numbers with one sign at most one is (`Nearest.unique`).

* `nearest_ofRatio`: a quotient is rounded to the number nearest to it. Numbers in the binade of the
  quotient, or above it, stand at whole multiples of its last place, where rounding to an integer
  finds the nearest; numbers below do not come as close as the least number of the binade.
* `nearest_ofScaled`: so is a decimal, in whichever form it is written.
-/

import WhenClause.Proofs.Rounding

namespace WhenClause

variable {numerator denominator digits : Nat} {place : Int} {x y : Double} {value : ℚ}

/-! ### Sizes -/

namespace Double

/-- The absolute value of a number that is not NaN; the infinities have `2 ^ 1024`. -/
def size (x : Double) : ℚ := x.significand * 2 ^ x.exponent

/-- A significand and an exponent that make up the magnitude make up the size, also where the
significand carries over into the next binade. -/
theorem size_of_magnitude (least : -1074 ≤ place) (few : digits ≤ 2 ^ 53)
    (normal : place = -1074 ∨ 2 ^ 52 ≤ digits)
    (same : x.magnitude.val = (place + 1074).toNat * 0x10000000000000 + digits) :
    x.size = digits * 2 ^ place := by
  have whole := x.magnitude_eq
  have below := x.significand_lt
  have least' := x.le_exponent
  have parts : (x.exponent = place ∧ x.significand = digits) ∨
      (x.exponent = place + 1 ∧ x.significand = 2 ^ 52 ∧ digits = 2 ^ 53) := by
    rcases x.exponent_eq_or_le with subnormal | normal'
    all_goals omega
  rcases parts with ⟨exponent, significand⟩ | ⟨exponent, significand, carried⟩
  · rw [size, exponent, significand]
  · rw [size, exponent, significand, carried, zpow_add_one₀ two_ne_zero]
    push_cast
    ring

theorem size_lt_of_magnitude_lt (less : x.magnitude.val < y.magnitude.val) : x.size < y.size := by
  have whole := x.magnitude_eq
  have whole' := y.magnitude_eq
  have below := x.significand_lt
  have below' := y.significand_lt
  have least := x.le_exponent
  rcases lt_trichotomy x.exponent y.exponent with lower | same | higher
  · have normal : 2 ^ 52 ≤ y.significand := y.exponent_eq_or_le.resolve_left (by omega)
    have few : (x.significand : ℚ) < 2 ^ 53 := by exact_mod_cast below
    have many : (2 ^ 52 : ℚ) ≤ y.significand := by exact_mod_cast normal
    calc x.size < 2 ^ 53 * 2 ^ x.exponent := mul_lt_mul_of_pos_right few (zpow_pos two_pos _)
      _ = 2 ^ 52 * 2 ^ (x.exponent + 1) := by
        rw [zpow_add_one₀ two_ne_zero]
        ring
      _ ≤ y.significand * 2 ^ y.exponent :=
        mul_le_mul many (zpow_le_zpow_right₀ one_le_two lower) (zpow_pos two_pos _).le
          (Nat.cast_nonneg _)
  · have fewer : (x.significand : ℚ) < y.significand := by
      rw [same] at whole
      exact_mod_cast (by omega : x.significand < y.significand)
    rw [size, size, same]
    exact mul_lt_mul_of_pos_right fewer (zpow_pos two_pos _)
  · -- a number of a higher binade has the greater magnitude
    have normal : 2 ^ 52 ≤ x.significand := x.exponent_eq_or_le.resolve_left fun subnormal => by
      have := y.le_exponent
      omega
    have := y.le_exponent
    omega

/-- **Sizes are ordered as magnitudes are.** -/
theorem size_lt_size_iff : x.size < y.size ↔ x.magnitude.val < y.magnitude.val := by
  refine ⟨fun less => ?_, size_lt_of_magnitude_lt⟩
  rcases lt_trichotomy x.magnitude.val y.magnitude.val with lower | same | higher
  · exact lower
  · have exponents : x.exponent = y.exponent := by rw [exponent, exponent, same]
    have significands : x.significand = y.significand := by rw [significand, significand, same]
    rw [size, size, exponents, significands] at less
    exact absurd less (lt_irrefl _)
  · exact absurd less (size_lt_of_magnitude_lt higher).le.not_gt

theorem size_le_size_iff : x.size ≤ y.size ↔ x.magnitude.val ≤ y.magnitude.val := by
  rw [← not_lt, size_lt_size_iff, not_lt]

theorem size_eq_size_iff : x.size = y.size ↔ x.magnitude.val = y.magnitude.val := by
  rw [le_antisymm_iff, size_le_size_iff, size_le_size_iff, le_antisymm_iff]

theorem size_of_isInfinite (infinite : x.magnitude.val = infinityMagnitude) :
    x.size = 2 ^ (1024 : Int) := by
  have parts : x.magnitude.val = ((972 : Int) + 1074).toNat * 0x10000000000000 + 2 ^ 52 := infinite
  rw [size_of_magnitude (by decide) (by decide) (.inr (le_refl _)) parts,
    show (1024 : Int) = (52 : Nat) + 972 from rfl, zpow_add₀ two_ne_zero, zpow_natCast,
    Nat.cast_pow, Nat.cast_ofNat]

theorem size_of_isZero (isZero : x.magnitude.val = 0) : x.size = 0 := by
  rw [size_of_magnitude (le_refl _) (Nat.zero_le _) (.inl rfl) isZero, Nat.cast_zero, zero_mul]

/-- The value that a number is nearest to: no number is closer, and one of two that are equally
close is even. -/
structure Nearest (x : Double) (value : ℚ) : Prop where
  noNaN : x.isNaN = false
  closest : ∀ y : Double, y.isNaN = false → |x.size - value| ≤ |y.size - value|
  even : ∀ y : Double, y.isNaN = false → y.size ≠ x.size →
    |y.size - value| = |x.size - value| → x.magnitude.val % 2 = 0

end Double

/-! ### Rounding to an integer -/

/-- The distance of a quotient from an integer, as a quotient. -/
theorem abs_sub_quotient (positive : 0 < denominator) (whole : Nat) :
    |(whole : ℚ) - numerator / denominator| =
      ((whole : Int) * denominator - numerator).natAbs / denominator := by
  have positive' : (0 : ℚ) < denominator := by exact_mod_cast positive
  rw [eq_div_iff positive'.ne', ← abs_of_pos positive', ← abs_mul, abs_of_pos positive', sub_mul,
    div_mul_cancel₀ _ positive'.ne', Nat.cast_natAbs]
  push_cast
  rfl

/-- No integer is closer to a quotient than the one it is rounded to, and if another one is as close
this one is even. -/
theorem abs_roundHalfEven (positive : 0 < denominator) (whole : Nat) :
    ((roundHalfEven numerator denominator : Int) * denominator - numerator).natAbs ≤
        ((whole : Int) * denominator - numerator).natAbs ∧
      (whole ≠ roundHalfEven numerator denominator →
        ((whole : Int) * denominator - numerator).natAbs =
          ((roundHalfEven numerator denominator : Int) * denominator - numerator).natAbs →
        roundHalfEven numerator denominator % 2 = 0) := by
  have parts := Nat.div_add_mod numerator denominator
  have less := Nat.mod_lt numerator positive
  unfold roundHalfEven
  dsimp only
  generalize numerator / denominator = quotient at parts ⊢
  generalize numerator % denominator = rest at parts less ⊢
  -- everything is counted from the quotient, in which the products are linear
  obtain ⟨steps, same⟩ : ∃ steps : Int, (whole : Int) = quotient + steps := ⟨whole - quotient, by ring⟩
  have whole' : (whole : Int) * denominator = denominator * quotient + steps * denominator := by
    rw [same]
    ring
  have next : ((quotient + 1 : Nat) : Int) * denominator = denominator * quotient + denominator := by
    push_cast
    ring
  have numerator' : (numerator : Int) = denominator * quotient + rest := by exact_mod_cast parts.symm
  rw [whole', numerator']
  have back : steps ≤ 0 → steps * denominator ≤ 0 :=
    fun nonpos => mul_nonpos_of_nonpos_of_nonneg nonpos (Int.natCast_nonneg _)
  have back' : steps ≤ -1 → steps * denominator ≤ -denominator := fun negative => by
    have := mul_le_mul_of_nonneg_right negative (Int.natCast_nonneg denominator)
    omega
  have forth : 1 ≤ steps → (denominator : Int) ≤ steps * denominator := fun positive => by
    have := mul_le_mul_of_nonneg_right positive (Int.natCast_nonneg denominator)
    omega
  have forth' : 2 ≤ steps → 2 * (denominator : Int) ≤ steps * denominator :=
    fun two => mul_le_mul_of_nonneg_right two (Int.natCast_nonneg denominator)
  generalize steps * (denominator : Int) = shift at *
  generalize (denominator : Int) * quotient = base at *
  split
  · rw [next]
    constructor <;> omega
  · rw [mul_comm (quotient : Int)]
    constructor <;> omega

/-! ### Rounding to a number -/

/-- Distances grow with the unit in which they are measured. -/
theorem abs_mul_sub {unit : ℚ} (positive : 0 < unit) (count : ℚ) :
    |count * unit - value| = |count - value / unit| * unit := by
  rw [← abs_of_pos positive, ← abs_mul, abs_of_pos positive, sub_mul, div_mul_cancel₀ _ positive.ne']

/-- No whole multiple of a unit is closer to a value than the one that its quotient by the unit is
rounded to, and if another one is as close this one is even. -/
theorem nearest_multiple {above below : Nat} {unit : ℚ} (positive : 0 < unit) (first : 0 < below)
    (parts : (above / below : ℚ) = value / unit) (whole : Nat) :
    |(roundHalfEven above below : ℚ) * unit - value| ≤ |(whole : ℚ) * unit - value| ∧
      (whole ≠ roundHalfEven above below →
        |(whole : ℚ) * unit - value| = |(roundHalfEven above below : ℚ) * unit - value| →
        roundHalfEven above below % 2 = 0) := by
  have first' : (0 : ℚ) < below := by exact_mod_cast first
  obtain ⟨closer, even⟩ := @abs_roundHalfEven above _ first whole
  simp only [abs_mul_sub positive, ← parts, abs_sub_quotient first]
  constructor
  · refine mul_le_mul_of_nonneg_right (div_le_div_of_nonneg_right ?_ first'.le) positive.le
    exact_mod_cast closer
  · intro other same
    refine even other ?_
    have same := mul_right_cancel₀ positive.ne' same
    rw [div_left_inj' first'.ne'] at same
    exact_mod_cast same

namespace Double

/-- What is rounded to a magnitude below `2 ^ 1024`, and the size of the result. -/
theorem exists_size_ofRatio (negative : Bool) (some' : 0 < numerator) (positive : 0 < denominator)
    (finite : (numerator / denominator : ℚ) < 2 ^ (1024 : Int)) :
    ∃ (place : Int) (above below : Nat), 0 < below ∧
      (above / below : ℚ) = numerator / denominator / 2 ^ place ∧
      (place = -1074 ∨ (2 : ℚ) ^ (52 + place) ≤ numerator / denominator) ∧ -1074 ≤ place ∧
      (ofRatio negative numerator denominator).magnitude.val =
        (place + 1074).toNat * 0x10000000000000 + roundHalfEven above below ∧
      (ofRatio negative numerator denominator).size = roundHalfEven above below * 2 ^ place := by
  have quotient : (0 : ℚ) < numerator / denominator := by positivity
  have log := (log_lt_iff quotient 1024).mpr finite
  obtain ⟨place, last⟩ : ∃ place,
      max (Int.log 2 (numerator / denominator : ℚ) - 52) (-1074) = place := ⟨_, rfl⟩
  obtain ⟨above, below, first, parts, rounded⟩ := exists_nearestMagnitude some' positive last
  have power : (0 : ℚ) < 2 ^ place := zpow_pos two_pos place
  have few : roundHalfEven above below ≤ 2 ^ 53 := by
    have inBinade := (log_lt_iff quotient (53 + place)).mp (by omega)
    refine roundHalfEven_le first ?_
    rw [parts, div_le_iff₀ power]
    refine inBinade.le.trans (le_of_eq ?_)
    rw [zpow_add₀ two_ne_zero, Nat.cast_pow]
    rfl
  have reached : place = -1074 ∨ (2 : ℚ) ^ (52 + place) ≤ numerator / denominator :=
    or_iff_not_imp_left.mpr fun normal => (le_log_iff quotient _).mp (by omega)
  have many : place = -1074 ∨ 2 ^ 52 ≤ roundHalfEven above below := by
    refine reached.imp_right fun normal => le_roundHalfEven first ?_
    rw [parts, le_div_iff₀ power]
    refine le_trans (le_of_eq ?_) normal
    rw [zpow_add₀ two_ne_zero, Nat.cast_pow]
    rfl
  have magnitude : (ofRatio negative numerator denominator).magnitude.val =
      (place + 1074).toNat * 0x10000000000000 + roundHalfEven above below := by
    show min (nearestMagnitude numerator denominator) infinityMagnitude = _
    rw [rounded, min_assoc, min_self]
    refine Nat.min_eq_left ?_
    unfold infinityMagnitude
    omega
  exact ⟨place, above, below, first, parts, reached, by omega, magnitude,
    size_of_magnitude (by omega) few many magnitude⟩

theorem nearest_of_isZero (isZero : x.magnitude.val = 0) : x.Nearest 0 := by
  refine ⟨decide_eq_false (by omega), fun y _ => ?_, fun _ _ _ _ => by rw [isZero]⟩
  rw [size_of_isZero isZero, sub_zero, abs_zero]
  exact abs_nonneg _

/-- No number is closer than infinity to a value that is as great. -/
theorem nearest_of_isInfinite (infinite : x.magnitude.val = infinityMagnitude)
    (great : (2 : ℚ) ^ (1024 : Int) ≤ value) : x.Nearest value := by
  refine ⟨decide_eq_false (by omega), fun y known => ?_, fun _ _ _ _ => by rw [infinite]; rfl⟩
  have below : y.size ≤ x.size := by
    rw [size_le_size_iff, infinite]
    exact Nat.not_lt.mp (of_decide_eq_false known)
  rw [size_of_isInfinite infinite] at below ⊢
  rw [abs_of_nonpos (sub_nonpos.mpr great), abs_of_nonpos (sub_nonpos.mpr (below.trans great))]
  exact neg_le_neg (sub_le_sub_right below _)

/-- Numbers from a binade on stand at whole multiples of its last place. -/
theorem exists_multiple (atLeast : place ≤ y.exponent) :
    ∃ whole : Nat, y.size = whole * 2 ^ place := by
  refine ⟨y.significand * 2 ^ (y.exponent - place).toNat, ?_⟩
  have upward : ((y.exponent - place).toNat : Int) = y.exponent - place := by omega
  rw [Nat.cast_mul, Nat.cast_pow, mul_assoc, ← zpow_natCast, upward, Nat.cast_ofNat,
    ← zpow_add₀ two_ne_zero, sub_add_cancel]
  rfl

/-- Numbers below a binade are less than all of it. -/
theorem size_lt_of_exponent_lt (lower : y.exponent < place) : y.size < 2 ^ (52 + place) := by
  have digits : (y.significand : ℚ) < 2 ^ (53 : Int) := by exact_mod_cast y.significand_lt
  calc y.size < 2 ^ (53 : Int) * 2 ^ y.exponent :=
        mul_lt_mul_of_pos_right digits (zpow_pos two_pos _)
    _ = 2 ^ (53 + y.exponent) := (zpow_add₀ two_ne_zero _ _).symm
    _ ≤ 2 ^ (52 + place) := zpow_le_zpow_right₀ one_le_two (by omega)

/-- **A quotient is rounded to the number nearest to it.** -/
theorem nearest_ofRatio (negative : Bool) (positive : 0 < denominator) :
    (ofRatio negative numerator denominator).Nearest (numerator / denominator) := by
  rcases Nat.eq_zero_or_pos numerator with rfl | some'
  · rw [Nat.cast_zero, zero_div]
    refine nearest_of_isZero ?_
    show min (nearestMagnitude 0 denominator) infinityMagnitude = 0
    rw [nearestMagnitude_zero]
    rfl
  rcases le_or_gt ((2 : ℚ) ^ (1024 : Int)) (numerator / denominator) with great | finite
  · refine nearest_of_isInfinite ?_ great
    show min (nearestMagnitude numerator denominator) infinityMagnitude = infinityMagnitude
    rw [nearestMagnitude_of_le positive great, min_self]
  obtain ⟨place, above, below, first, parts, reached, least, magnitude, size⟩ :=
    exists_size_ofRatio negative some' positive finite
  have multiple := fun whole => nearest_multiple (zpow_pos two_pos place) first parts whole
  -- below the binade nothing is as close as its least number, which is a multiple of its last place
  have farther : ∀ y : Double, y.exponent < place →
      |(ofRatio negative numerator denominator).size - numerator / denominator| <
        |y.size - numerator / denominator| := by
    intro y lower
    have normal := reached.resolve_left (by have := y.le_exponent; omega)
    have less := size_lt_of_exponent_lt lower
    have start : ((2 ^ 52 : Nat) : ℚ) * 2 ^ place = 2 ^ (52 + place) := by
      rw [zpow_add₀ two_ne_zero, Nat.cast_pow]
      rfl
    have closer := (multiple (2 ^ 52)).1
    rw [start, ← size, abs_of_nonpos (sub_nonpos.mpr normal)] at closer
    rw [abs_of_neg (sub_neg.mpr (less.trans_le normal))]
    exact lt_of_le_of_lt closer (neg_lt_neg (sub_lt_sub_right less _))
  refine ⟨decide_eq_false (Nat.not_lt.mpr (Nat.min_le_right _ _)), fun y _ => ?_,
    fun y _ other same => ?_⟩
  · rcases le_or_gt place y.exponent with atLeast | lower
    · obtain ⟨whole, same⟩ := exists_multiple atLeast
      rw [size, same]
      exact (multiple whole).1
    · exact (farther y lower).le
  · rcases le_or_gt place y.exponent with atLeast | lower
    · obtain ⟨whole, same'⟩ := exists_multiple atLeast
      rw [size, same'] at other same
      have even := (multiple whole).2 (fun equal => other (by rw [equal])) same
      rw [magnitude]
      omega
    · exact absurd same (farther y lower).ne'

/-- **A decimal is rounded to the number nearest to it.** -/
theorem nearest_ofScaled (negative : Bool) (digits : Nat) (exponent : Int) :
    (ofScaled negative digits exponent).Nearest (digits * 10 ^ exponent) := by
  obtain ⟨numerator, denominator, positive, parts, rounds⟩ := ofScaled_eq negative digits exponent
  rw [rounds, ← parts]
  exact nearest_ofRatio negative positive

/-- **At most one magnitude is nearest to a value.** Between two even ones there is a third, which
would be closer. -/
theorem Nearest.unique (nearest : x.Nearest value) (nearest' : y.Nearest value) :
    x.magnitude = y.magnitude := by
  -- it is enough to look at one of the two orders
  have ordered : ∀ {x y : Double}, x.Nearest value → y.Nearest value →
      ¬x.magnitude.val < y.magnitude.val := by
    intro x y nearest nearest' less
    have apart := size_lt_size_iff.mpr less
    have tie : |x.size - value| = |y.size - value| :=
      le_antisymm (nearest.closest y nearest'.noNaN) (nearest'.closest x nearest.noNaN)
    have even := nearest.even y nearest'.noNaN apart.ne' tie.symm
    have even' := nearest'.even x nearest.noNaN apart.ne tie
    have bound : y.magnitude.val ≤ infinityMagnitude :=
      Nat.not_lt.mp (of_decide_eq_false nearest'.noNaN)
    obtain ⟨z, between⟩ : ∃ z : Double, z.magnitude.val = x.magnitude.val + 1 :=
      ⟨⟨false, ⟨x.magnitude.val + 1, by have := y.magnitude.isLt; omega⟩⟩, rfl⟩
    have known : z.isNaN = false := decide_eq_false (by omega)
    have first : x.size < z.size := size_lt_size_iff.mpr (by omega)
    have second : z.size < y.size := size_lt_size_iff.mpr (by omega)
    have closest := nearest.closest z known
    -- the value is in the middle of the two
    rcases abs_eq_abs.mp tie with same | opposite
    · exact apart.ne (sub_left_injective same)
    · rw [abs_of_nonpos (by linarith), le_abs] at closest
      rcases closest with closest | closest <;> linarith
  exact Fin.ext (le_antisymm (not_lt.mp (ordered nearest' nearest)) (not_lt.mp (ordered nearest nearest')))

end Double

end WhenClause
