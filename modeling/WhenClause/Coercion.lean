/-
**Reading context values loosely.**

A context holds JSON values, and a key may have none. Conditions read them with few demands on their
kind: `isTruthy` takes a value as a Boolean, `looseText` as a text, `number?` as a number. A value
of the wrong kind makes a condition fail, never an error.

* `looselyEqual` compares a value with one written in an expression.
* `itemsEqual` compares two values, for membership in an array.
* `contains` asks for an item in a container, `compares` for the order of a value and a bound.
-/

import WhenClause.Json.Value
import WhenClause.Literal
import WhenClause.Text.Blank

namespace WhenClause

variable [PatternEngine]

/-! ### Truth and text -/

/-- Whether a value counts as true. Zero, NaN, the empty text, null and no value do not. -/
def isTruthy : Option Json → Bool
  | none => false
  | some .null => false
  | some (.boolean value) => value
  | some (.number value) => !value.toDouble.isZero && !value.toDouble.isNaN
  | some (.string value) => !value.isEmpty
  | some (.array _) => true
  | some (.object _) => true

/-- The text of a number; an integer keeps all its digits. -/
def JsonNumber.text : JsonNumber → String
  | .integer value => toString value
  | .double value => value.text

mutual

/-- The text of a value. The items of an array are joined by commas. -/
def Json.looseText : Json → String
  | .null => "null"
  | .boolean value => Value.booleanText value
  | .number value => value.text
  | .string value => value
  | .array items => ",".intercalate (Json.itemTexts items)
  | .object _ => "[object Object]"

/-- The texts of the items of an array, in which null is empty. -/
def Json.itemTexts : List Json → List String
  | [] => []
  | .null :: items => "" :: Json.itemTexts items
  | item :: items => item.looseText :: Json.itemTexts items

end

/-- The text of what a key has. -/
def looseText : Option Json → String
  | none => "undefined"
  | some value => value.looseText

/-! ### Numbers -/

/-- The finite number that a text writes, blanks at its ends aside. -/
def parseNumber (text : String) : Option Double :=
  (Double.read (trimBlanks text.toList)).filter Double.isFinite

/-- The number of a value that is a number or a text. -/
def Json.number? : Json → Option Double
  | .number value => some value.toDouble
  | .string value => parseNumber value
  | _ => none

/-- The number of a value for equality, where `true` is one and `false` is zero. -/
def Json.looseNumber? : Json → Option Double
  | .boolean value => some (if value then Double.one else Double.zero)
  | value => value.number?

/-- The number of a value written in an expression. -/
def Value.number? : Value → Option Double
  | .boolean _ => none
  | .number value => if value.isFinite then some value else none
  | .string value => parseNumber value

def Value.isNumber : Value → Bool
  | .number _ => true
  | _ => false

/-! ### Equality -/

/-- Two numbers if there are two, and two texts otherwise. -/
def numbersOrTexts (left right : Option Double) (leftText rightText : String) : Bool :=
  match left, right with
  | some left, some right => left == right
  | _, _ => leftText == rightText

/-- Whether what a key has equals a written value. A Boolean is compared with the truth of it, and
nothing else equals null or no value. If a number is among the two, numbers are compared where both
have one, and texts otherwise. -/
def looselyEqual (value : Option Json) (written : Value) : Bool :=
  match written, value with
  | .boolean wanted, value => isTruthy value == wanted
  | _, none => false
  | _, some .null => false
  | written, some value =>
    if value.isNumber || written.isNumber then
      numbersOrTexts value.looseNumber? written.number? value.looseText written.text
    else value.looseText == written.text

def Json.isContainer : Json → Bool
  | .array _ => true
  | .object _ => true
  | _ => false

/-- Whether what a key has equals an element of an array. No value equals null only, as null does;
arrays and objects equal nothing. -/
def itemsEqual (item : Option Json) (element : Json) : Bool :=
  match item, element with
  | none, .null => true
  | some .null, .null => true
  | none, _ => false
  | some .null, _ => false
  | _, .null => false
  | some (.boolean left), .boolean right => left == right
  | some item, element =>
    if item.isContainer || element.isContainer then false
    else if item.isNumber || element.isNumber then
      numbersOrTexts item.looseNumber? element.looseNumber? item.looseText element.looseText
    else item.looseText == element.looseText

/-! ### Membership and order -/

/-- Whether an item is in a container: an element of an array, or a key of an object. -/
def contains (container item : Option Json) : Bool :=
  match container with
  | some (.array elements) => elements.any (itemsEqual item)
  | some (.object entries) =>
    match item with
    | some (.string key) => (Entries.find? entries key).isSome
    | some (.number value) => (Entries.find? entries value.text).isSome
    | _ => false
  | _ => false

/-- Whether what a key has compares with a bound; both must have numbers. -/
def compares (value : Option Json) (comparison : Comparison) (bound : Value) : Bool :=
  match value.bind Json.number?, bound.number? with
  | some left, some right => comparison.holds left right
  | _, _ => false

end WhenClause
