/-
**Building expressions.**

`Expression.ofLiteral` is the expression of a literal under the platform facts: a test for equality
with a Boolean asks for the key's truth, a bound that is a Boolean becomes its text, and where the
facts fix the value of the key a test of it is a constant. The constructors named after the tests
are its instances.

`negate` and `rename` build every literal anew under the facts, and join the results again.
-/

import WhenClause.Expression.Canonical
import WhenClause.Platform

namespace WhenClause.Expression

variable [PatternEngine]

/-! ### Literals -/

/-- The expression of a test with a polarity. -/
def ofTest (facts : Facts) (question : Test) (holds : Bool) : Expression :=
  match question with
  | .has key =>
    match facts.constant? key with
    | some constant => ofBool (constant == holds)
    | none => single (.test (.has key) holds)
  | .equals key (.boolean value) =>
    match facts.constant? key with
    | some constant => ofBool (constant == (value == holds))
    | none => single (.test (.has key) (value == holds))
  | .equals key value =>
    match facts.constant? key with
    | some constant => ofBool ((value.text == Value.booleanText constant) == holds)
    | none => single (.test (.equals key value) holds)
  | _ => single (.test question holds)

/-- A bound without Booleans. -/
def plainBound : Value → Value
  | .boolean value => .string (Value.booleanText value)
  | value => value

/-- The expression of a literal. -/
def ofLiteral (facts : Facts) : Literal → Expression
  | .test question holds => ofTest facts question holds
  | .ordered key comparison bound => single (.ordered key comparison (plainBound bound))

/-- The key has a value that counts as true. -/
def has (facts : Facts) (key : String) : Expression := ofTest facts (.has key) true

/-- The key has no value, or one that counts as false. -/
def lacks (facts : Facts) (key : String) : Expression := ofTest facts (.has key) false

def equals (facts : Facts) (key : String) (value : Value) : Expression :=
  ofTest facts (.equals key value) true

def differs (facts : Facts) (key : String) (value : Value) : Expression :=
  ofTest facts (.equals key value) false

/-- The key's value, as text, matches a pattern. -/
def matching (key : String) (pattern : PatternLiteral) : Expression :=
  single (.test (.matching key pattern) true)

def notMatching (key : String) (pattern : PatternLiteral) : Expression :=
  single (.test (.matching key pattern) false)

/-- The key's value is in the container under another key. -/
def isIn (key container : String) : Expression := single (.test (.member key container) true)

def notIn (key container : String) : Expression := single (.test (.member key container) false)

/-- The key's value compares with a bound. -/
def compared (key : String) (comparison : Comparison) (bound : Value) : Expression :=
  single (.ordered key comparison (plainBound bound))

/-! ### Negation -/

/-- The negation of a literal. A comparison stays as it is but for its direction. -/
def negateLiteral (facts : Facts) : Literal → Expression
  | .test question holds => ofTest facts question (!holds)
  | .ordered key comparison bound => single (.ordered key comparison.opposite bound)

/-- The negation of a clause: one of the negated literals holds. -/
def negateClauseWithin (facts : Facts) (limit : Nat) (clause : Clause) :
    Except TooManyClauses Expression :=
  match clause with
  | [literal] => .ok (negateLiteral facts literal)
  | literals => disjWithin limit (literals.map (negateLiteral facts))

/-- The negation of a clause without a limit. -/
def negateClause (facts : Facts) (clause : Clause) : Expression :=
  match clause with
  | [literal] => negateLiteral facts literal
  | literals => disj (literals.map (negateLiteral facts))

/-- The negation within a limit on the clauses held at a time: all clauses must fail. -/
def negateWithin (facts : Facts) (limit : Nat) (expression : Expression) :
    Except TooManyClauses Expression :=
  match expression.clauses with
  | [] => .ok always
  | [clause] => negateClauseWithin facts limit clause
  | clauses => conjWithin limit (clauses.map (negateClause facts))

/-- The negation. -/
def negate (facts : Facts) (expression : Expression) : Expression :=
  match expression.clauses with
  | [] => always
  | [clause] => negateClause facts clause
  | clauses => conj (clauses.map (negateClause facts))

/-! ### Renaming -/

/-- A clause with its keys renamed. -/
def renameClause (facts : Facts) (naming : String → String) (clause : Clause) : Expression :=
  match clause with
  | [literal] => ofLiteral facts (literal.rename naming)
  | literals => conj (literals.map fun literal => ofLiteral facts (literal.rename naming))

/-- The expression with its keys renamed. Keys may coincide, or become platform keys. -/
def rename (facts : Facts) (naming : String → String) (expression : Expression) : Expression :=
  match expression.clauses with
  | [] => never
  | [clause] => renameClause facts naming clause
  | clauses => disj (clauses.map (renameClause facts naming))

/-- The expression with the platform keys that have become known since it was built. -/
def substituteConstants (facts : Facts) (expression : Expression) : Expression :=
  expression.rename facts id

end WhenClause.Expression
