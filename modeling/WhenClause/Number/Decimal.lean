/-
**Decimal text of binary64 numbers.**

* `Double.read` reads an optional sign, digits with an optional point, and an optional exponent, and
  gives the number nearest to the decimal value.
* `Double.shortest` is the decimal with the fewest digits that reads back as the number, of two such
  decimals the nearer one, and of two equally near ones what its `Tie` says.
* `Decimal.positional` and `Decimal.scientific` are the two layouts of a decimal.
* `Double.text` is the form a number has in an expression: positional from `1e-6` up to, and not
  including, `1e21`, and scientific elsewhere.
-/

import WhenClause.Number.Double

namespace WhenClause

/-! ### Digits -/

/-- The digit characters in front, and what follows them. -/
def splitDigits (text : List Char) : List Char × List Char :=
  (text.takeWhile Char.isDigit, text.dropWhile Char.isDigit)

/-- The number that digit characters write. -/
def digitsValue (digits : List Char) : Nat :=
  digits.foldl (fun value digit => value * 10 + (digit.toNat - '0'.toNat)) 0

/-! ### Reading -/

/-- An optional sign in front: whether it is `-`, and what follows. -/
def splitSign : List Char → Bool × List Char
  | '-' :: rest => (true, rest)
  | '+' :: rest => (false, rest)
  | text => (false, text)

/-- The greatest exponent that another digit is still added to. -/
def openExponent : Nat := 0xffff

/-- The number that the digits of an exponent write. Digits behind an exponent that is out of all
bounds already are dropped. -/
def exponentValue (digits : List Char) : Nat :=
  digits.foldl (fun value digit =>
    if value ≤ openExponent then value * 10 + (digit.toNat - '0'.toNat) else value) 0

/-- The exponent part that ends a number: nothing, or `e` with signed digits. -/
def readExponent : List Char → Option Int
  | [] => some 0
  | mark :: rest =>
    if mark = 'e' ∨ mark = 'E' then
      let (negative, rest) := splitSign rest
      let (digits, rest) := splitDigits rest
      if digits.isEmpty ∨ !rest.isEmpty then none
      else if negative then some (-(exponentValue digits : Int))
      else some (exponentValue digits)
    else none

/-- The fraction digits behind a point, if there is one, and what follows. -/
def splitFraction : List Char → List Char × List Char
  | '.' :: rest => splitDigits rest
  | text => ([], text)

/-- The number that a decimal text writes, rounded; a digit must stand beside the point. -/
def Double.read (text : List Char) : Option Double :=
  let (negative, text) := splitSign text
  let (whole, text) := splitDigits text
  let (fraction, text) := splitFraction text
  if whole.isEmpty ∧ fraction.isEmpty then none
  else (readExponent text).map fun exponent =>
    Double.ofScaled negative (digitsValue (whole ++ fraction)) (exponent - fraction.length)

/-! ### Shortest digits -/

/-- Which of two equally near integers a quotient is rounded to. -/
inductive Tie where
  | toEven
  | awayFromZero
  deriving DecidableEq, Repr

/-- The quotient rounded to the nearest integer. -/
def Tie.round (numerator denominator : Nat) : Tie → Nat
  | toEven => roundHalfEven numerator denominator
  | awayFromZero => (2 * numerator + denominator) / (2 * denominator)

/-- Whether `10 ^ exponent ≤ numerator / denominator`. -/
def reachesPowerOfTen (numerator denominator : Nat) (exponent : Int) : Bool :=
  if 0 ≤ exponent then denominator * Nat.pow 10 exponent.toNat ≤ numerator
  else denominator ≤ numerator * Nat.pow 10 (-exponent).toNat

/-- The greatest `e` with `10 ^ e ≤ numerator / denominator`, for a positive quotient.

The binary logarithm fixes it up to one place either way. -/
def floorLog10 (numerator denominator : Nat) : Int :=
  let guess := floorLog2 numerator denominator * 30103 / 100000
  if reachesPowerOfTen numerator denominator (guess + 1) then guess + 1
  else if reachesPowerOfTen numerator denominator guess then guess
  else guess - 1

/-- The quotient in units of `10 ^ place`, as a quotient. -/
def inUnits (numerator denominator : Nat) (place : Int) : Nat × Nat :=
  if 0 ≤ place then (numerator, denominator * Nat.pow 10 place.toNat)
  else (numerator * Nat.pow 10 (-place).toNat, denominator)

namespace Double

/-- Whether `digits * 10 ^ place` reads back as the absolute value. -/
def readsBack (x : Double) (place : Int) (digits : Nat) : Bool :=
  (ofScaled false digits place).magnitude == x.magnitude

/-- Of the two multiples of `10 ^ place` around the absolute value, the nearest that reads back. -/
def atPlace? (x : Double) (tie : Tie) (place : Int) : Option Nat :=
  let (numerator, denominator) := inUnits x.ratio.1 x.ratio.2 place
  let below := numerator / denominator
  let nearest := tie.round numerator denominator
  let other := if nearest = below then below + 1 else below
  [nearest, other].find? (x.readsBack place)

/-- All digits of the absolute value of a finite number: `digits * 10 ^ place`. -/
def exactDigits (x : Double) : Nat × Int :=
  if 0 ≤ x.exponent then (x.significand * Nat.pow 2 x.exponent.toNat, 0)
  else (x.significand * Nat.pow 5 (-x.exponent).toNat, x.exponent)

/-- The fewest digits, with the place of the last one, that read back as the absolute value of a
finite number. One to seventeen digits are tried, and all digits stand behind them. -/
def shortestDigits (x : Double) (tie : Tie) : Nat × Int :=
  let first := floorLog10 x.ratio.1 x.ratio.2
  let tried := (List.range 17).findSome? fun (further : Nat) =>
    let place := first - (further : Int)
    (x.atPlace? tie place).map (·, place)
  tried.getD x.exactDigits

end Double

/-- A positive decimal: its significant digits, and the power of ten of the first one. -/
structure Decimal where
  digits : List Char
  exponent : Int
  deriving DecidableEq, Repr

namespace Decimal

/-- The decimal `digits * 10 ^ place`, zeros at its end dropped. -/
def ofScaled (digits : Nat) (place : Int) : Decimal :=
  let all := Nat.toDigits 10 digits
  { digits := (all.reverse.dropWhile (· == '0')).reverse
    exponent := place + (all.length - 1 : Nat) }

/-! ### Layouts -/

/-- Without an exponent; a whole number ends in `wholeMark`. -/
def positional (decimal : Decimal) (wholeMark : List Char) : List Char :=
  if decimal.exponent < 0 then
    '0' :: '.' :: List.replicate ((-decimal.exponent).toNat - 1) '0' ++ decimal.digits
  else
    let whole := decimal.exponent.toNat + 1
    if decimal.digits.length ≤ whole then
      decimal.digits ++ List.replicate (whole - decimal.digits.length) '0' ++ wholeMark
    else decimal.digits.take whole ++ '.' :: decimal.digits.drop whole

/-- One digit before the point, and the exponent with its sign. -/
def scientific (decimal : Decimal) : List Char :=
  let mantissa :=
    match decimal.digits with
    | [] => []
    | [digit] => [digit]
    | digit :: rest => digit :: '.' :: rest
  let sign := if decimal.exponent < 0 then '-' else '+'
  mantissa ++ 'e' :: sign :: Nat.toDigits 10 decimal.exponent.natAbs

end Decimal

namespace Double

/-- The shortest decimal that reads back as the absolute value of a finite nonzero number. -/
def shortest (x : Double) (tie : Tie) : Decimal :=
  let (digits, place) := x.shortestDigits tie
  Decimal.ofScaled digits place

/-- The sign in front of a negative number. -/
def signText (x : Double) : List Char := if x.negative then ['-'] else []

/-! ### Numbers in expressions -/

/-- The least absolute value written without an exponent. -/
def leastPositional : Double := ofScaled false 1 (-6)

/-- The least absolute value too great to be written without an exponent. -/
def leastBeyondPositional : Double := ofScaled false 1 21

/-- Whether a nonzero number is written with an exponent. -/
def usesExponent (x : Double) : Bool :=
  leastBeyondPositional.atMost x.abs || x.abs.less leastPositional

/-- The characters of `Double.text`; of two equally near decimals the greater is written. -/
def characters (x : Double) : List Char :=
  if x.isNaN then "NaN".toList
  else if x.isInfinite then x.signText ++ "Infinity".toList
  else if x.isZero then ['0']
  else
    let decimal := x.shortest .awayFromZero
    x.signText ++ if x.usesExponent then decimal.scientific else decimal.positional []

/-- The form of a number in an expression and in comparisons of texts. -/
def text (x : Double) : String := String.ofList x.characters

end Double

end WhenClause
