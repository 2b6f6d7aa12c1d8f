/-
**What a text was expected to continue with.**

Reading a text leaves `Attempts`: the furthest position at which the reading of a construct failed,
and the constructs tried there. `Attempts.merge` keeps the further of two records; `Attempts.within`
is the record of a failed construct, given the record of its parts: where the parts got no further
than the start of the construct, the construct stands for them, unless a single one was tried.

`expectation` is the message about a record: its constructs in a fixed order, each once.
-/

namespace WhenClause.Grammar

/-- The constructs of an expression, in the order in which messages list them. -/
inductive Construct where
  | endOfInput
  | expression
  | disjunction
  | conjunction
  | unary
  | negationMark
  | primary
  | group
  | patternTest
  | notInTest
  | inTest
  | comparison
  | keyTest
  | operator
  | strictEqual
  | strictDiffer
  | equal
  | differ
  | atLeast
  | atMost
  | greater
  | less
  | inWord
  | notWord
  | trueWord
  | falseWord
  | key
  | value
  | identifier
  | quotedString
  | number
  | patternLiteral
  | patternSource
  deriving DecidableEq, Repr

namespace Construct

/-- All constructs in order. -/
def all : List Construct :=
  [endOfInput, expression, disjunction, conjunction, unary, negationMark, primary, group,
    patternTest, notInTest, inTest, comparison, keyTest, operator, strictEqual, strictDiffer, equal,
    differ, atLeast, atMost, greater, less, inWord, notWord, trueWord, falseWord, key, value,
    identifier, quotedString, number, patternLiteral, patternSource]

/-- The name of a construct in messages. -/
def describe : Construct → String
  | endOfInput => "end of input"
  | expression | disjunction | conjunction | unary => "expression"
  | negationMark => "'!'"
  | primary | keyTest | key => "key"
  | group => "'('"
  | patternTest => "regex match"
  | notInTest | notWord => "'not in'"
  | inTest | inWord => "'in'"
  | comparison | operator => "comparison operator"
  | strictEqual => "'==='"
  | strictDiffer => "'!=='"
  | equal => "'=='"
  | differ => "'!='"
  | atLeast => "'>='"
  | atMost => "'<='"
  | greater => "'>'"
  | less => "'<'"
  | trueWord => "'true'"
  | falseWord => "'false'"
  | value => "value"
  | identifier => "identifier"
  | quotedString => "quoted string"
  | number => "number"
  | patternLiteral | patternSource => "regex literal"

end Construct

/-! ### Records -/

/-- The furthest position at which constructs failed, and these constructs. -/
structure Attempts where
  position : Nat
  constructs : List Construct
  deriving DecidableEq, Repr

namespace Attempts

/-- Nothing was tried. -/
def none : Attempts := ⟨0, []⟩

/-- One construct failed. -/
def single (position : Nat) (construct : Construct) : Attempts := ⟨position, [construct]⟩

/-- The further record, or both at one position. -/
def merge (earlier later : Attempts) : Attempts :=
  if later.constructs.isEmpty ∨ later.position < earlier.position then earlier
  else if earlier.position = later.position then
    ⟨later.position, earlier.constructs ++ later.constructs⟩
  else later

/-- The record of a construct that fails at its start, given the record of its parts. -/
def within (construct : Construct) (start : Nat) (parts : Attempts) : Attempts :=
  if parts.constructs.isEmpty then single start construct
  else if parts.position = start ∧ parts.constructs.length ≠ 1 then single start construct
  else parts

end Attempts

/-! ### Messages -/

/-- A list in words, its last two parts joined by `or`. -/
def alternativesText : List String → String
  | [] => ""
  | [only] => only
  | [first, second] => first ++ " or " ++ second
  | parts => ", ".intercalate parts.dropLast ++ ", or " ++ parts.getLastD ""

/-- The message about constructs that were expected. -/
def expectation (constructs : List Construct) : String :=
  let listed := Construct.all.filter constructs.contains
  if listed.isEmpty then "unknown parsing error"
  else "expected " ++ alternativesText (listed.map Construct.describe)

end WhenClause.Grammar
