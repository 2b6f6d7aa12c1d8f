/-
**Contexts from text.**

A context is written as a JSON object. On a command line single values are written as `key=value`,
where a value that is no JSON is a text.
-/

import WhenClause.Evaluation
import WhenClause.Json.Reader

namespace WhenClause

variable [PatternEngine]

/-- Why a text is no context. -/
inductive ContextError where
  | invalidJson
  | notObject (kind : String)
  deriving DecidableEq, Repr

def ContextError.message : ContextError → String
  | .invalidJson => "Context error: Invalid JSON"
  | .notObject kind => "Context error: Context must be a JSON object, got " ++ kind

/-- The entries of the JSON object that a text writes. -/
def Entries.ofText (text : String) : Except ContextError Entries :=
  match Json.read text with
  | none => .error .invalidJson
  | some (.object entries) => .ok entries
  | some value => .error (.notObject value.kind)

/-- The context of the entries of an object. -/
def Entries.context (entries : Entries) : Context := Context.ofJson (.object entries)

/-! ### Assignments -/

/-- Why a text is no assignment of a value to a key. -/
inductive AssignmentError where
  | noValue (text : String)
  | emptyKey (text : String)
  deriving DecidableEq, Repr

def AssignmentError.message : AssignmentError → String
  | .noValue text => "Invalid context value '" ++ text ++ "' (expected key=value)"
  | .emptyKey text => "Invalid context value '" ++ text ++ "' (empty key)"

/-- The key and the value of an assignment, which are divided by the first `=`. -/
def readAssignment (text : String) : Except AssignmentError (String × Json) :=
  let characters := text.toList
  let key := characters.takeWhile (· != '=')
  match characters.drop key.length with
  | [] => .error (.noValue text)
  | _ :: raw =>
    if key.isEmpty then .error (.emptyKey text)
    else
      let written := String.ofList raw
      .ok (String.ofList key, (Json.read written).getD (.string written))

end WhenClause
