/-
**Expressions: disjunctions of clauses.**

An `Expression` is a list of clauses, one of which must hold. Without a clause it never holds, and a
clause without literals always holds. The order of clauses and literals is that of the text that the
expression prints as; it has no part in `==`.

* `sameMembers` pairs off the members of two lists.
* `Expression.implies` asks of each clause of one side for a subset of it on the other side.
* `Expression.keys` are the keys read, in the order in which they first occur.
* `Expression.alternatives` and `Expression.conjuncts` are the parts of an expression as
  expressions.
-/

import WhenClause.Clause

namespace WhenClause

variable [PatternEngine]

/-! ### Equality up to order -/

/-- Whether the members of two lists pair off, each with the first one left that is the same. -/
def sameMembers {α : Type} (same : α → α → Bool) : List α → List α → Bool
  | [], others => others.isEmpty
  | member :: members, others =>
    others.any (same member) && sameMembers same members (others.eraseP (same member))

/-- An expression: the clauses of which one must hold. -/
structure Expression where
  clauses : List Clause
  deriving Inhabited

namespace Expression

/-- Equality up to the order of clauses and of literals. -/
def equal (left right : Expression) : Bool :=
  sameMembers (sameMembers (· == ·)) left.clauses right.clauses

instance : BEq Expression := ⟨equal⟩

/-! ### Simple expressions -/

/-- The expression that never holds. -/
def never : Expression := ⟨[]⟩

/-- The expression that always holds. -/
def always : Expression := ⟨[[]]⟩

def ofBool (value : Bool) : Expression := if value then always else never

/-- One clause by itself. -/
def ofClause (clause : Clause) : Expression := ⟨[clause]⟩

/-- One literal by itself. -/
def single (literal : Literal) : Expression := ofClause [literal]

/-! ### Shape -/

def isNever (expression : Expression) : Bool := expression.clauses.isEmpty

def isAlways (expression : Expression) : Bool :=
  match expression.clauses with
  | [[]] => true
  | _ => false

def isLiteral (expression : Expression) : Bool :=
  match expression.clauses with
  | [[_]] => true
  | _ => false

/-- The clauses as expressions; `never` is its only alternative. -/
def alternatives (expression : Expression) : List Expression :=
  if expression.isNever then [expression] else expression.clauses.map ofClause

/-- The literals of an only clause as expressions; any other expression is its only conjunct. -/
def conjuncts (expression : Expression) : List Expression :=
  match expression.clauses with
  | [literal :: literals] => (literal :: literals).map single
  | _ => [expression]

/-! ### Implication -/

/-- Whether each clause of the first expression includes a clause of the second. -/
def implies (stronger weaker : Expression) : Bool :=
  stronger.clauses.all fun clause => weaker.clauses.any fun other => Clause.isSubset other clause

/-! ### Keys -/

/-- A list of keys with one more, unless it is there already. -/
def addKey (keys : List String) (key : String) : List String :=
  if keys.contains key then keys else keys ++ [key]

/-- The keys read, in the order in which they first occur. -/
def keys (expression : Expression) : List String :=
  (expression.clauses.flatten.flatMap Literal.keys).foldl addKey []

end Expression

end WhenClause
