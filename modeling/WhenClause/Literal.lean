/-
**Literals: single conditions on context keys.**

A literal either asks a `Test`, or its complement, or holds a key's value against a bound. A test
and its complement never hold together and one of them always holds, so they are one test with two
polarities. Comparisons have no such partner: on values that are no numbers both a comparison and
its opposite fail.

* `Literal.isComplement` tells whether two literals ask one test with opposite polarity.
* `Literal.opposite` turns the polarity, or the comparison, around.
* `==` compares numbers by value, so `0` equals `-0` and NaN equals nothing.
-/

import WhenClause.Number.Decimal
import WhenClause.PatternLiteral

namespace WhenClause

/-! ### Values -/

/-- A value written in an expression. -/
inductive Value where
  | boolean (value : Bool)
  | number (value : Double)
  | string (value : String)
  deriving Repr

namespace Value

/-- Equality of values, numbers by value. -/
def equal : Value → Value → Bool
  | .boolean left, .boolean right => left == right
  | .number left, .number right => left == right
  | .string left, .string right => left == right
  | _, _ => false

instance : BEq Value := ⟨equal⟩

/-- The text of a Boolean. -/
def booleanText (value : Bool) : String := if value then "true" else "false"

/-- The text that stands for a value in comparisons of texts. -/
def text : Value → String
  | .boolean value => booleanText value
  | .number value => value.text
  | .string value => value

end Value

/-! ### Comparisons -/

/-- How a key's value may stand to a bound. -/
inductive Comparison where
  | greater
  | atLeast
  | less
  | atMost
  deriving DecidableEq, Repr

namespace Comparison

/-- The comparison that holds of two numbers, none of them NaN, exactly when this one does not. -/
def opposite : Comparison → Comparison
  | .greater => .atMost
  | .atLeast => .less
  | .less => .atLeast
  | .atMost => .greater

def symbol : Comparison → String
  | .greater => ">"
  | .atLeast => ">="
  | .less => "<"
  | .atMost => "<="

/-- Whether two numbers compare so; NaN compares with nothing. -/
def holds : Comparison → Double → Double → Bool
  | .greater, left, right => right.less left
  | .atLeast, left, right => right.atMost left
  | .less, left, right => left.less right
  | .atMost, left, right => left.atMost right

@[simp] theorem opposite_opposite (comparison : Comparison) :
    comparison.opposite.opposite = comparison := by cases comparison <;> rfl

end Comparison

/-! ### Tests and literals -/

variable [PatternEngine]

/-- A question about context keys with the answers yes and no. -/
inductive Test where
  | has (key : String)
  | equals (key : String) (value : Value)
  | matching (key : String) (pattern : PatternLiteral)
  | member (key container : String)

namespace Test

/-- Equality of tests, numbers by value. -/
def equal : Test → Test → Bool
  | .has left, .has right => left == right
  | .equals left value, .equals right value' => left == right && value == value'
  | .matching left pattern, .matching right pattern' => left == right && pattern == pattern'
  | .member left container, .member right container' => left == right && container == container'
  | _, _ => false

instance : BEq Test := ⟨equal⟩

/-- The keys a test reads. -/
def keys : Test → List String
  | .has key => [key]
  | .equals key _ => [key]
  | .matching key _ => [key]
  | .member key container => [key, container]

/-- The test with every key renamed. -/
def rename (naming : String → String) : Test → Test
  | .has key => .has (naming key)
  | .equals key value => .equals (naming key) value
  | .matching key pattern => .matching (naming key) pattern
  | .member key container => .member (naming key) (naming container)

end Test

/-- A test that must hold or must fail, or a comparison of a key's value with a bound. -/
inductive Literal where
  | test (question : Test) (holds : Bool)
  | ordered (key : String) (comparison : Comparison) (bound : Value)

namespace Literal

/-- Equality of literals, numbers by value. -/
def equal : Literal → Literal → Bool
  | .test left holds, .test right holds' => left == right && holds == holds'
  | .ordered left comparison bound, .ordered right comparison' bound' =>
    left == right && comparison == comparison' && bound == bound'
  | _, _ => false

instance : BEq Literal := ⟨equal⟩

/-- Whether two literals ask one test with opposite polarity. -/
def isComplement : Literal → Literal → Bool
  | .test left holds, .test right holds' => left == right && holds != holds'
  | _, _ => false

/-- The literal with its polarity or its comparison turned around. -/
def opposite : Literal → Literal
  | .test question holds => .test question (!holds)
  | .ordered key comparison bound => .ordered key comparison.opposite bound

/-- The keys a literal reads. -/
def keys : Literal → List String
  | .test question _ => question.keys
  | .ordered key _ _ => [key]

/-- The literal with every key renamed. -/
def rename (naming : String → String) : Literal → Literal
  | .test question holds => .test (question.rename naming) holds
  | .ordered key comparison bound => .ordered (naming key) comparison bound

@[simp] theorem opposite_opposite (literal : Literal) : literal.opposite.opposite = literal := by
  cases literal <;> simp [opposite]

end Literal

end WhenClause
