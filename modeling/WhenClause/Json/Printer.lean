/-
**Compact JSON text.**

`Json.render` writes a value without blanks. Strings escape the quote, the backslash and the control
characters below the space. A `Double` is written with its shortest digits, of two equally near
decimals the even one: positional from `1e-5` up to, and not including, `1e16`, with `.0` behind a
whole number, and scientific elsewhere.
-/

import WhenClause.Json.Value
import WhenClause.Number.Decimal

namespace WhenClause

/-! ### Numbers -/

/-- The powers of ten of the first digit that are written without an exponent. -/
def JsonNumber.isPositional (exponent : Int) : Bool := -5 ≤ exponent && exponent < 16

/-- A finite number as it stands in JSON. -/
def Double.jsonText (x : Double) : List Char :=
  if x.isZero then x.signText ++ "0.0".toList
  else
    let decimal := x.shortest .toEven
    x.signText ++
      if JsonNumber.isPositional decimal.exponent then decimal.positional ".0".toList
      else decimal.scientific

def JsonNumber.render : JsonNumber → String
  | .integer value => toString value
  | .double value => String.ofList value.jsonText

/-! ### Strings -/

/-- The two hexadecimal digits of a number below 256. -/
def hexByte (value : Nat) : List Char := [Nat.digitChar (value / 16), Nat.digitChar (value % 16)]

/-- One character of a string as it stands between quotes. -/
def Json.escape (c : Char) : List Char :=
  match c with
  | '"' => "\\\"".toList
  | '\\' => "\\\\".toList
  | '\x08' => "\\b".toList
  | '\x0c' => "\\f".toList
  | '\n' => "\\n".toList
  | '\r' => "\\r".toList
  | '\t' => "\\t".toList
  | _ => if c.toNat < 0x20 then "\\u00".toList ++ hexByte c.toNat else [c]

def Json.renderText (text : String) : String :=
  String.ofList ('"' :: text.toList.flatMap Json.escape ++ ['"'])

/-! ### Values -/

mutual

/-- A value without blanks. -/
def Json.render : Json → String
  | .null => "null"
  | .boolean value => if value then "true" else "false"
  | .number value => value.render
  | .string value => Json.renderText value
  | .array items => "[" ++ ",".intercalate (Json.renderItems items) ++ "]"
  | .object entries => "\x7b" ++ ",".intercalate (Json.renderEntries entries) ++ "\x7d"

def Json.renderItems : List Json → List String
  | [] => []
  | item :: items => item.render :: Json.renderItems items

def Json.renderEntries : List (String × Json) → List String
  | [] => []
  | (key, value) :: entries =>
    (Json.renderText key ++ ":" ++ value.render) :: Json.renderEntries entries

end

end WhenClause
