/-
**Formulas: expressions as they are written.**

A `Formula` is what the grammar reads off a text: tests, negations, and the two joins, with the
positions of the numbers and pattern literals that may turn out to be invalid. Every sequence of
alternatives is an `any`, also one of a single part, and so is every sequence of conjuncts an `all`.
-/

import WhenClause.Literal

namespace WhenClause.Grammar

/-- The characters between two positions of a text. -/
structure Extent where
  first : Nat
  last : Nat
  deriving DecidableEq, Repr

/-- A value as it is written. -/
inductive WrittenValue where
  | boolean (value : Bool)
  | number (digits : List Char) (extent : Extent)
  | string (value : List Char)
  deriving DecidableEq, Repr

/-- How a key is compared with a value. -/
inductive Operator where
  | equal
  | differ
  | ordered (comparison : Comparison)
  deriving DecidableEq, Repr

/-- A test as it is written. -/
inductive WrittenTest where
  | constant (value : Bool)
  | has (key : List Char)
  | matching (key source flags : List Char) (extent : Extent)
  | member (key container : List Char)
  | notMember (key container : List Char)
  | compare (key : List Char) (operator : Operator) (value : WrittenValue)
  deriving DecidableEq, Repr

/-- An expression as it is written. An even number of negation marks is no negation. -/
inductive Formula where
  | test (written : WrittenTest)
  | negation (body : Formula)
  | all (parts : List Formula)
  | any (parts : List Formula)
  deriving Repr, Inhabited

end WhenClause.Grammar
