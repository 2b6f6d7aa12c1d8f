/-
**The text of an expression.**

Clauses are joined by ` || ` and their literals by ` && `. A key stands bare where the grammar reads
it back so, and between quotes elsewhere; a text value is always quoted.
-/

import WhenClause.Expression.Basic
import WhenClause.Text.Blank
import WhenClause.Text.Quoted

namespace WhenClause

variable [PatternEngine]

/-- Characters that end a bare word. -/
def isOperatorCharacter (c : Char) : Bool := "()!&|='~".toList.contains c

/-- Whether a key stands without quotes. -/
def isBareKey (key : List Char) : Bool :=
  match key with
  | [] => false
  | first :: _ =>
    first != '<' && first != '>' && key != "true".toList && key != "false".toList &&
      key.all fun c => !isBlank c && !isOperatorCharacter c

/-- A key as it stands in an expression. -/
def renderKey (key : String) : String :=
  if isBareKey key.toList then key else String.ofList (Quoted.encode key.toList)

/-- A value as it stands in an expression. -/
def Value.render : Value → String
  | .boolean value => booleanText value
  | .number value => value.text
  | .string value => String.ofList (Quoted.encode value.toList)

/-- A literal as it stands in an expression. A failing pattern test has the mark of negation. -/
def Literal.render : Literal → String
  | .test (.has key) true => renderKey key
  | .test (.has key) false => "!" ++ renderKey key
  | .test (.equals key value) true => renderKey key ++ " == " ++ value.render
  | .test (.equals key value) false => renderKey key ++ " != " ++ value.render
  | .test (.matching key pattern) true => renderKey key ++ " =~ " ++ pattern.render
  | .test (.matching key pattern) false => "!" ++ renderKey key ++ " =~ " ++ pattern.render
  | .test (.member key container) true => renderKey key ++ " in " ++ renderKey container
  | .test (.member key container) false => renderKey key ++ " not in " ++ renderKey container
  | .ordered key comparison bound =>
    renderKey key ++ " " ++ comparison.symbol ++ " " ++ bound.render

/-- The literals of a clause; without any it is `true`. -/
def Clause.render (clause : Clause) : String :=
  if clause.isEmpty then "true" else " && ".intercalate (clause.map Literal.render)

/-- The canonical text of an expression. -/
def Expression.render (expression : Expression) : String :=
  if expression.isNever then "false"
  else " || ".intercalate (expression.clauses.map Clause.render)

end WhenClause
