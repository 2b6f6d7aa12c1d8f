/-
**Clauses: conjunctions of literals.**

A clause lists the literals that must all hold, none of them twice and none beside its complement.

* `Clause.extend?` adds a literal, unless the clause holds its complement.
* `Clause.isSubset` compares clauses as sets; a subset demands less.
* `Clause.consensus` joins two clauses that are opposed in exactly one test: what it demands is
  enough for one of the two, whichever way the test turns out.
-/

import WhenClause.Literal

namespace WhenClause

variable [PatternEngine]

/-- The literals that must hold together. -/
abbrev Clause := List Literal

namespace Clause

/-- The clause with one more literal, unless it is there already. -/
def add (clause : Clause) (literal : Literal) : Clause :=
  if clause.contains literal then clause else clause ++ [literal]

/-- The clause with one more literal; none if it holds the complement. -/
def extend? (clause : Clause) (literal : Literal) : Option Clause :=
  if clause.any (·.isComplement literal) then none else some (clause.add literal)

/-- The clause with several more literals; none if a complement comes up. -/
def extendAll? (clause : Clause) (literals : List Literal) : Option Clause :=
  literals.foldlM extend? clause

/-- Whether every literal of the first clause is in the second. -/
def isSubset (smaller larger : Clause) : Bool := smaller.all larger.contains

/-- The number of pairs of complements between two clauses. -/
def opposition (left right : Clause) : Nat :=
  (left.flatMap fun literal => right.filter literal.isComplement).length

/-- The literals of both clauses but for the pair of complements, if there is exactly one. -/
def consensus (left right : Clause) : Option Clause :=
  if opposition left right = 1 then
    let kept := left.filter fun literal => !right.any literal.isComplement
    let added := right.filter fun literal => !left.any (·.isComplement literal)
    some (added.foldl add kept)
  else none

end Clause

end WhenClause
