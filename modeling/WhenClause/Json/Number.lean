/-
**Numbers of JSON text.**

`readJsonNumber` reads the number in front of a text. Without point and exponent, and within 64
bits, it is an exact integer. Otherwise its digits are collected as long as they fit 64 unsigned
bits, the others only count towards the exponent, and the collected number is multiplied or divided
by a power of ten in binary64: at most two roundings, which need not give the nearest number. `-0`
is a `Double`, and a value beyond the greatest finite number is refused.
-/

import WhenClause.Json.Value
import WhenClause.Number.Decimal

namespace WhenClause.JsonNumber

/-- The greatest number of 64 unsigned bits. -/
def unsignedMax : Nat := Nat.pow 2 64 - 1

/-! ### Scaling -/

/-- The binary64 number nearest to a power of ten. -/
def powerOfTen (exponent : Nat) : Double := Double.ofScaled false 1 exponent

/-- `value * 10 ^ exponent` for a value that is not negative, rounded once for each step of at most
`10 ^ 308`; refused when infinite. -/
def scale (value : Double) (exponent : Int) : Option Double :=
  if 308 < exponent then if value.isZero then some value else none
  else if 0 ≤ exponent then
    let product := value.times (powerOfTen exponent.toNat)
    if product.isInfinite then none else some product
  else if -308 ≤ exponent then some (value.dividedBy (powerOfTen (-exponent).toNat))
  else if value.isZero then some value
  else scale (value.dividedBy (powerOfTen 308)) (exponent + 308)
termination_by (-exponent).toNat
decreasing_by omega

/-- The number of collected digits, an exponent and a sign. -/
def ofParts (negative : Bool) (digits : Nat) (exponent : Int) : Option JsonNumber :=
  (scale (Double.ofInt digits) exponent).map fun value =>
    .double { value with negative := negative }

/-! ### Digits -/

/-- Digits collected onto `collected` as long as the result fits 64 bits: the result, the number of
digits taken, and the rest of the text. -/
def collect (collected taken : Nat) : List Char → Nat × Nat × List Char
  | [] => (collected, taken, [])
  | c :: rest =>
    let next := collected * 10 + (c.toNat - '0'.toNat)
    if c.isDigit ∧ next ≤ unsignedMax then collect next (taken + 1) rest
    else (collected, taken, c :: rest)

/-! ### Exponents -/

/-- Exponents are kept within 32 signed bits. -/
def exponentMax : Nat := Nat.pow 2 31 - 1

/-- The end of a number behind its digits: an exponent part, or nothing. -/
def readScaled (negative : Bool) (digits : Nat) (exponent : Int) (text : List Char) :
    Option (JsonNumber × List Char) :=
  match text with
  | [] => (ofParts negative digits exponent).map (·, [])
  | mark :: rest =>
    if mark = 'e' ∨ mark = 'E' then
      let (down, rest) := splitSign rest
      let (written, rest) := splitDigits rest
      if written.isEmpty then none
      else
        let size := digitsValue written
        if exponentMax < size then
          if digits ≠ 0 ∧ !down then none
          else some (.double (Double.ofMagnitude negative 0), rest)
        else
          let change : Int := if down then -size else size
          (ofParts negative digits (exponent + change)).map (·, rest)
    else (ofParts negative digits exponent).map (·, mark :: rest)

/-- The end of a number behind its point. -/
def readFraction (negative : Bool) (digits : Nat) (exponent : Int) (text : List Char) :
    Option (JsonNumber × List Char) :=
  let (digits, taken, rest) := collect digits 0 text
  if taken = 0 ∧ (splitDigits rest).1.isEmpty then none
  else readScaled negative digits (exponent - taken) (splitDigits rest).2

/-- The integer of collected digits; `-0` and what is less than any 64-bit integer is a `Double`. -/
def ofDigits (negative : Bool) (digits : Nat) : JsonNumber :=
  if !negative then .integer digits
  else if digits = 0 ∨ 0x8000000000000000 < digits then
    .double { Double.ofInt digits with negative := true }
  else .integer (-digits)

/-- The end of a number behind its whole part. -/
def readBehindWhole (negative : Bool) (digits dropped : Nat) (text : List Char) :
    Option (JsonNumber × List Char) :=
  match text with
  | '.' :: rest => readFraction negative digits dropped rest
  | 'e' :: _ => readScaled negative digits dropped text
  | 'E' :: _ => readScaled negative digits dropped text
  | _ =>
    if dropped = 0 then some (ofDigits negative digits, text)
    else (ofParts negative digits dropped).map (·, text)

/-- The number in front of a text, without its sign; no zero stands before another digit. -/
def readUnsigned (negative : Bool) (text : List Char) : Option (JsonNumber × List Char) :=
  match text with
  | '0' :: rest =>
    if (splitDigits rest).1.isEmpty then readBehindWhole negative 0 0 rest else none
  | _ =>
    let (digits, taken, rest) := collect 0 0 text
    if taken = 0 then none
    else
      let (dropped, rest) := splitDigits rest
      readBehindWhole negative digits dropped.length rest

/-- The number in front of a text, and the rest. -/
def read (text : List Char) : Option (JsonNumber × List Char) :=
  match text with
  | '-' :: rest => readUnsigned true rest
  | _ => readUnsigned false text

end WhenClause.JsonNumber
