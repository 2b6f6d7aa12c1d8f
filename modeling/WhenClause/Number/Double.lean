/-
**Binary64 numbers.**

A `Double` is its sign and the 63 bits below it, read as one natural number (`magnitude`). Among
numbers that are not NaN the magnitudes are ordered as the absolute values are, so:

* `Double.rank` is an integer that orders the values, both zeros at `0`; `==`, `<` and `≤` are
  comparisons of ranks that fail on NaN;
* `nearestMagnitude` rounds an exact quotient to the nearest magnitude, a half to the even one;
* `Double.ofScaled` is the number nearest to `digits * 10 ^ exponent`;
* `Double.times` and `Double.dividedBy` are the correctly rounded product and quotient.

All arithmetic is exact arithmetic on natural numbers, followed by one rounding.
-/

namespace WhenClause

/-! ### Representation -/

/-- A binary64 number: its sign and its other 63 bits. -/
structure Double where
  negative : Bool
  magnitude : Fin 0x8000000000000000
  deriving DecidableEq, Repr, Inhabited

/-- The magnitude of the two infinities; greater ones are NaN. -/
def infinityMagnitude : Nat := 0x7ff0000000000000

theorem infinityMagnitude_lt : infinityMagnitude < 0x8000000000000000 := by decide

namespace Double

def isNaN (x : Double) : Bool := infinityMagnitude < x.magnitude.val

def isInfinite (x : Double) : Bool := x.magnitude.val == infinityMagnitude

def isFinite (x : Double) : Bool := x.magnitude.val < infinityMagnitude

def isZero (x : Double) : Bool := x.magnitude.val == 0

/-- The 64 bits as a natural number, the sign on top. -/
def bits (x : Double) : Nat := (if x.negative then 0x8000000000000000 else 0) + x.magnitude.val

/-- The number with the given bits, taken modulo `2 ^ 64`. -/
def ofBits (bits : Nat) : Double :=
  ⟨bits / 0x8000000000000000 % 2 == 1, ⟨bits % 0x8000000000000000, Nat.mod_lt _ (by decide)⟩⟩

/-- The number of a sign and a magnitude, at most infinity. -/
def ofMagnitude (negative : Bool) (magnitude : Nat) : Double :=
  ⟨negative, ⟨min magnitude infinityMagnitude,
    Nat.lt_of_le_of_lt (Nat.min_le_right _ _) infinityMagnitude_lt⟩⟩

def zero : Double := ofMagnitude false 0

def one : Double := ofBits 0x3ff0000000000000

def nan : Double := ofBits 0x7ff8000000000000

/-- The number without its sign. -/
def abs (x : Double) : Double := { x with negative := false }

/-! ### Order -/

/-- The position of a value among all values; the two zeros share `0`. -/
def rank (x : Double) : Int :=
  if x.negative then -(x.magnitude.val : Int) else x.magnitude.val

/-- Equality of values: the zeros are equal, NaN equals nothing. -/
def equal (x y : Double) : Bool := !x.isNaN && !y.isNaN && x.rank == y.rank

/-- Strict order of values, `false` on NaN. -/
def less (x y : Double) : Bool := !x.isNaN && !y.isNaN && x.rank < y.rank

/-- Order of values, `false` on NaN. -/
def atMost (x y : Double) : Bool := !x.isNaN && !y.isNaN && x.rank ≤ y.rank

instance : BEq Double := ⟨equal⟩

/-! ### Exact value -/

/-- The integer `m` of the absolute value `m * 2 ^ q`. -/
def significand (x : Double) : Nat :=
  let fraction := x.magnitude.val % 0x10000000000000
  if x.magnitude.val / 0x10000000000000 = 0 then fraction else 0x10000000000000 + fraction

/-- The exponent `q` of the absolute value `m * 2 ^ q`. -/
def exponent (x : Double) : Int :=
  let field : Nat := x.magnitude.val / 0x10000000000000
  if field = 0 then -1074 else (field : Int) - 1075

/-- The absolute value as a quotient of natural numbers. -/
def ratio (x : Double) : Nat × Nat :=
  if 0 ≤ x.exponent then (x.significand * Nat.pow 2 x.exponent.toNat, 1)
  else (x.significand, Nat.pow 2 (-x.exponent).toNat)

end Double

/-! ### Rounding -/

/-- The quotient rounded to the nearest integer, a half to the even one. -/
def roundHalfEven (numerator denominator : Nat) : Nat :=
  let quotient := numerator / denominator
  let twice := 2 * (numerator % denominator)
  if twice > denominator ∨ (twice = denominator ∧ quotient % 2 = 1) then quotient + 1
  else quotient

/-- The greatest `e` with `2 ^ e ≤ numerator / denominator`, for a positive quotient. -/
def floorLog2 (numerator denominator : Nat) : Int :=
  let guess : Int := (numerator.log2 : Int) - denominator.log2
  let reached :=
    if 0 ≤ guess then denominator * Nat.pow 2 guess.toNat ≤ numerator
    else denominator ≤ numerator * Nat.pow 2 (-guess).toNat
  if reached then guess else guess - 1

/-- The magnitude nearest to a quotient, a half to the even one; too great a quotient is infinite.

The last binary place of the result is at least `2 ^ (-1074)`. Counting magnitudes from the start
of the binade, a rounding up to the next power of two carries into the exponent by itself. -/
def nearestMagnitude (numerator denominator : Nat) : Nat :=
  if numerator = 0 then 0
  else
    let place : Int := max (floorLog2 numerator denominator - 52) (-1074)
    let rounded :=
      if 0 ≤ place then roundHalfEven numerator (denominator * Nat.pow 2 place.toNat)
      else roundHalfEven (numerator * Nat.pow 2 (-place).toNat) denominator
    min ((place + 1074).toNat * 0x10000000000000 + rounded) infinityMagnitude

namespace Double

/-- The number nearest to a quotient. -/
def ofRatio (negative : Bool) (numerator denominator : Nat) : Double :=
  ofMagnitude negative (nearestMagnitude numerator denominator)

/-- The number nearest to an integer. -/
def ofInt (value : Int) : Double := ofRatio (value < 0) value.natAbs 1

/-- The number nearest to `digits * 10 ^ exponent`.

Beyond `10 ^ 400` everything is infinite, and below `2 ^ (-1100)` everything is zero, so no power
of ten is formed there. -/
def ofScaled (negative : Bool) (digits : Nat) (exponent : Int) : Double :=
  if digits = 0 then ofMagnitude negative 0
  else if 400 < exponent then ofMagnitude negative infinityMagnitude
  else if 0 ≤ exponent then ofRatio negative (digits * Nat.pow 10 exponent.toNat) 1
  else if (digits.log2 : Int) + 1 + 3 * exponent < -1100 then ofMagnitude negative 0
  else ofRatio negative digits (Nat.pow 10 (-exponent).toNat)

/-- The rounded product of two finite numbers. -/
def times (x y : Double) : Double :=
  ofRatio (x.negative != y.negative) (x.ratio.1 * y.ratio.1) (x.ratio.2 * y.ratio.2)

/-- The rounded quotient of two finite numbers, the second not zero. -/
def dividedBy (x y : Double) : Double :=
  ofRatio (x.negative != y.negative) (x.ratio.1 * y.ratio.2) (x.ratio.2 * y.ratio.1)

end Double

end WhenClause
