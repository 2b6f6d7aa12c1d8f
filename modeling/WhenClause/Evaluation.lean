/-
**Evaluation.**

A context tells what a key has. `Expression.evaluate` asks for a clause whose literals all hold in
it.
-/

import WhenClause.Coercion
import WhenClause.Expression.Basic

namespace WhenClause

variable [PatternEngine]

/-- What each key has. -/
abbrev Context := String → Option Json

/-- The context of a JSON value: the entries of an object, and no keys for any other value. -/
def Context.ofJson (value : Json) : Context := value.find?

/-- The answer to a test. -/
def Test.evaluate (context : Context) : Test → Bool
  | .has key => isTruthy (context key)
  | .equals key value => looselyEqual (context key) value
  | .matching key pattern => pattern.occursIn (looseText (context key))
  | .member key container => contains (context container) (context key)

/-- Whether a literal holds. -/
def Literal.evaluate (context : Context) : Literal → Bool
  | .test question holds => question.evaluate context == holds
  | .ordered key comparison bound => compares (context key) comparison bound

/-- Whether all literals of a clause hold. -/
def Clause.evaluate (context : Context) (clause : Clause) : Bool :=
  clause.all (·.evaluate context)

/-- Whether one of the clauses holds. -/
def Expression.evaluate (context : Context) (expression : Expression) : Bool :=
  expression.clauses.any (Clause.evaluate context)

end WhenClause
