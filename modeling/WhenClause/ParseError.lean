/-
**Why a text is no expression.**

A text is too long or nested too deep, it breaks the grammar, it holds a number beyond all finite
ones or a pattern that does not compile, or its canonical form takes too many clauses. Faults within
the text have a span.
-/

import WhenClause.Grammar.Expectation
import WhenClause.Grammar.Outline
import WhenClause.Limits
import WhenClause.PatternLiteral
import WhenClause.Text.Span
import WhenClause.Expression.Canonical

namespace WhenClause

/-- What is wrong at a place in a text. -/
inductive Fault where
  | empty
  | unexpected (expected : List Grammar.Construct) (suggestion : Option Grammar.Suggestion)
  | numberOutOfRange (digits : String)
  deriving DecidableEq, Repr

namespace Fault

def message : Fault → String
  | .empty => "Expression is empty"
  | .unexpected expected _ => Grammar.expectation expected
  | .numberOutOfRange digits => "Number '" ++ digits ++ "' is out of range"

/-- The hint that comes with a fault. -/
def suggestion? : Fault → Option String
  | .unexpected _ suggestion => suggestion.map Grammar.Suggestion.message
  | _ => none

end Fault

inductive ParseError where
  | malformed (fault : Fault) (span : Span)
  | invalidPattern (source flags : String) (cause : PatternError) (span : Span)
  | limitExceeded (name : LimitName) (limit actual : Nat)
  deriving DecidableEq, Repr

namespace ParseError

/-! ### Limits -/

/-- A number of bytes, depths or clauses in words. -/
def quantity (name : LimitName) (count : Nat) : String :=
  match name with
  | .expressionBytes => toString count ++ " bytes"
  | _ => toString count

/-- What to do about a limit. -/
def remedy : LimitName → String
  | .expressionBytes => "Split the expression or raise max_expression_bytes"
  | .nestingDepth => "Remove redundant parentheses"
  | .clauses => "Factor shared conditions out of the alternatives or raise max_clauses"

/-- Too many clauses as an error of reading. -/
def ofTooManyClauses (error : TooManyClauses) : ParseError :=
  .limitExceeded .clauses error.limit error.reached

/-! ### Messages -/

/-- The message about a pattern literal. -/
def patternMessage (source flags : String) (cause : PatternError) : String :=
  "Invalid regex /" ++ source ++ "/" ++ flags ++ ": " ++ cause.message

/-- A message with its suggestion and its place. -/
def located (message : String) (suggestion : Option String) (span : Span) : String :=
  let hint :=
    match suggestion with
    | some suggestion => " (suggestion: " ++ suggestion ++ ")"
    | none => ""
  message ++ hint ++ " at " ++ span.render

/-- The whole message. -/
def message : ParseError → String
  | .malformed fault span => "Parse error: " ++ located fault.message fault.suggestion? span
  | .invalidPattern source flags cause span =>
    "Invalid regex: " ++ located (patternMessage source flags cause) none span
  | .limitExceeded name limit actual =>
    "Resource limit exceeded: " ++ name.text ++ " (limit: " ++ quantity name limit ++
      ", actual: " ++ quantity name actual ++ ")"

end ParseError

end WhenClause
