/-
**From text to expression.**

`Expression.parse` checks the length of a text, the nesting of its outline and that it is not blank,
reads its formula, and builds the formula from left to right under the platform facts and the limit
on clauses. So a text that breaks the grammar is refused for that, whatever else is wrong in it.

`Formula.build` is the meaning of a formula: tests through the constructors, joins and negations
through the canonical form. `Expression.parse?` reads within the default limits and drops the error.
-/

import WhenClause.Expression.Construct
import WhenClause.Grammar.Production
import WhenClause.ParseError

namespace WhenClause

variable [PatternEngine]

namespace Grammar

/-! ### Building -/

/-- A value; a number must be finite. -/
def WrittenValue.build (text : List Char) : WrittenValue → Except ParseError Value
  | .boolean value => .ok (.boolean value)
  | .string value => .ok (.string (String.ofList value))
  | .number digits extent =>
    match (Double.read digits).filter Double.isFinite with
    | some parsed => .ok (.number parsed)
    | none =>
      .error (.malformed (.numberOutOfRange (String.ofList digits))
        (Span.between text extent.first extent.last))

/-- The expression of a key compared with a value. -/
def Operator.build (facts : Facts) (key : String) (value : Value) : Operator → Expression
  | .equal => Expression.equals facts key value
  | .differ => Expression.differs facts key value
  | .ordered comparison => Expression.compared key comparison value

/-- A test. -/
def WrittenTest.build (facts : Facts) (text : List Char) :
    WrittenTest → Except ParseError Expression
  | .constant value => .ok (Expression.ofBool value)
  | .has key => .ok (Expression.has facts (String.ofList key))
  | .member key container =>
    .ok (Expression.isIn (String.ofList key) (String.ofList container))
  | .notMember key container =>
    .ok (Expression.notIn (String.ofList key) (String.ofList container))
  | .matching key source flags extent =>
    match PatternLiteral.ofSource (String.ofList source) flags with
    | .ok pattern => .ok (Expression.matching (String.ofList key) pattern)
    | .error cause =>
      .error (.invalidPattern (String.ofList source) (String.ofList flags) cause
        (Span.between text extent.first extent.last))
  | .compare key operator value =>
    (value.build text).map fun value => operator.build facts (String.ofList key) value

/-- The result of a join within a limit. -/
def withinClauses (result : Except TooManyClauses Expression) : Except ParseError Expression :=
  result.mapError ParseError.ofTooManyClauses

mutual

/-- The expression of a formula, its parts built from left to right. -/
def Formula.build (facts : Facts) (limit : Nat) (text : List Char) :
    Formula → Except ParseError Expression
  | .test written => written.build facts text
  | .negation body => do
    let expression ← body.build facts limit text
    withinClauses (expression.negateWithin facts limit)
  | .all parts => do
    let expressions ← Formula.buildAll facts limit text parts
    withinClauses (Expression.conjWithin limit expressions)
  | .any parts => do
    let expressions ← Formula.buildAll facts limit text parts
    withinClauses (Expression.disjWithin limit expressions)

def Formula.buildAll (facts : Facts) (limit : Nat) (text : List Char) :
    List Formula → Except ParseError (List Expression)
  | [] => .ok []
  | part :: parts => do
    let expression ← part.build facts limit text
    let expressions ← Formula.buildAll facts limit text parts
    return expression :: expressions

end

end Grammar

namespace Expression

/-! ### Parsing -/

/-- The expression that a text writes. -/
def parse (facts : Facts) (limits : Limits) (text : String) : Except ParseError Expression :=
  let characters := text.toList
  if limits.expressionBytes < text.utf8ByteSize then
    .error (.limitExceeded .expressionBytes limits.expressionBytes text.utf8ByteSize)
  else if limits.nestingDepth < Grammar.nestingDepth characters then
    .error (.limitExceeded .nestingDepth limits.nestingDepth (Grammar.nestingDepth characters))
  else if (trimBlanks characters).isEmpty then
    .error (.malformed .empty (Span.atOffset characters 0))
  else
    match Grammar.read characters with
    | .error attempts =>
      .error (.malformed (.unexpected attempts.constructs (Grammar.suggest? characters))
        (Span.between characters attempts.position attempts.position))
    | .ok formula => formula.build facts limits.clauses characters

/-- The expression that a text writes, within the default limits. -/
def parse? (facts : Facts) (text : String) : Option Expression := (parse facts {} text).toOption

/-! ### JSON -/

/-- Why a JSON value stands for no expression. -/
inductive JsonFault where
  | text (error : ParseError)
  | kind (value : Json)

/-- The message about a JSON value. Where a pattern is malformed, nothing follows the cause. -/
def JsonFault.message : JsonFault → String
  | .text (.invalidPattern source flags .malformed _) =>
    "Invalid regex: " ++ ParseError.patternMessage source flags .malformed
  | .text error => error.message
  | .kind value => value.kindMessage "a context key expression string"

/-- The expression that a JSON value stands for: a text is parsed, a Boolean is a constant. -/
def ofJson (facts : Facts) (value : Json) : Except JsonFault Expression :=
  match value with
  | .string text => (parse facts {} text).mapError .text
  | .boolean value => .ok (ofBool value)
  | value => .error (.kind value)

end Expression

end WhenClause
