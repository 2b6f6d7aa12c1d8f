/-
**Explanations.**

The explanation of an evaluation is the verdict, a table of the keys read with what they have, and a
table of the alternatives with the outcome of each.
-/

import WhenClause.CommandLine.Table
import WhenClause.ContextText
import WhenClause.Expression.Printer
import WhenClause.Json.Printer

namespace WhenClause.CommandLine

variable [PatternEngine]

/-- The row of a key: its name, what it has, and whether that counts as true. -/
def keyRow (context : Context) (key : String) : List String :=
  let value := context key
  [key, (value.map Json.render).getD "undefined", Value.booleanText (isTruthy value)]

def keysTable (context : Context) (keys : List String) : Table :=
  { header := ["Key", "Value", "Truthy"], rows := keys.map (keyRow context) }

def alternativesTable (context : Context) (expression : Expression) : Table :=
  { header := ["Clause", "Result"]
    rows := expression.alternatives.map fun alternative =>
      [alternative.render, Value.booleanText (alternative.evaluate context)] }

/-- The explanation of an evaluation. Without keys there is no table of them. -/
def explain (context : Context) (expression : Expression) : String :=
  let verdict := Value.booleanText (expression.evaluate context) ++ "\n"
  let keys := expression.keys
  let keysPart := if keys.isEmpty then "" else (keysTable context keys).render ++ "\n"
  verdict ++ keysPart ++ (alternativesTable context expression).render ++ "\n"

end WhenClause.CommandLine
