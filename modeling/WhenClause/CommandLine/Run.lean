/-
**Running a command.**

`run` answers a request: an exit status, what to print, and a complaint if something went wrong. The
limits are read first, then the expressions, then the context, and the first failure is the answer.
A complaint about a place in an expression is a `Report` with the place and a hint.

Files are looked up by a function, which tells why a file cannot be read.
-/

import WhenClause.CommandLine.Arguments
import WhenClause.CommandLine.Explanation
import WhenClause.Parse

namespace WhenClause.CommandLine

variable [PatternEngine]

/-! ### Answers -/

/-- A complaint about a place in an expression: its first line, the place, and a hint. -/
structure Report where
  head : String
  place : LineColumn
  hint : Option String
  deriving DecidableEq, Repr

inductive Complaint where
  | report (report : Report)
  | plain (text : String)
  deriving DecidableEq, Repr

/-- What the program answers. -/
structure Answer where
  status : Nat
  output : String
  complaint : Option Complaint
  deriving DecidableEq, Repr

namespace Answer

def success (output : String) : Answer := ⟨0, output, none⟩

def failure (complaint : Complaint) : Answer := ⟨1, "", some complaint⟩

/-- The arguments make no request. -/
def misuse : Answer := ⟨2, "", none⟩

end Answer

/-! ### Complaints -/

/-- The characters at which reports end a line: carriage return, line feed, vertical tab, form feed,
next line, line separator and paragraph separator. -/
def isLineEnd (c : Char) : Bool :=
  ['\r', '\n', '\x0b', '\x0c', '\u0085', '\u2028', '\u2029'].contains c

/-- The place behind so many more characters of a text. A carriage return in front of a line feed
does not end the line by itself. -/
def placeWithin (place : LineColumn) : List Char → Nat → LineColumn
  | c :: rest, count + 1 =>
    let ends := isLineEnd c && !(c == '\r' && rest.head? == some '\n')
    placeWithin (if ends then ⟨place.line + 1, 1⟩ else ⟨place.line, place.column + 1⟩) rest count
  | _, _ => place

/-- The place that a report points at: the start of a span, at most the last character. -/
def reportPlace (text : List Char) (span : Span) : LineColumn :=
  let before := (takeBytes text span.start).length
  placeWithin .start text (min before (text.length - 1))

/-- The first line of a text. A carriage return in front of the line feed belongs to the line
end. -/
def firstLine (text : String) : String :=
  let line := text.toList.takeWhile (· != '\n')
  if line.length < text.length ∧ line.getLast? = some '\r' then String.ofList line.dropLast
  else String.ofList line

/-- The head of a report about a fault at a place. -/
def locatedHead (kind message : String) (span : Span) : String :=
  firstLine ("Error: " ++ kind ++ ": " ++ message ++ " (at " ++ span.render ++ ")")

/-- The head of a report about a pattern literal. What is wrong within a malformed pattern, and all
behind it, is left out. -/
def patternHead (source flags : String) (cause : PatternError) (span : Span) : String :=
  match cause with
  | .malformed =>
    firstLine ("Error: Invalid regex: Invalid regex /" ++ source ++ "/" ++ flags ++ ": ")
  | _ => locatedHead "Invalid regex" (ParseError.patternMessage source flags cause) span

/-- The complaint about a text that is no expression. There is no place in an empty text. -/
def Complaint.ofParseError (text : String) (error : ParseError) : Complaint :=
  let characters := text.toList
  match error with
  | .malformed fault span =>
    if characters.isEmpty then .plain error.message
    else .report {
      head := locatedHead "Parse error" fault.message span
      place := reportPlace characters span
      hint := fault.suggestion? }
  | .invalidPattern source flags cause span =>
    .report {
      head := patternHead source flags cause span
      place := reportPlace characters span
      hint := none }
  | .limitExceeded name limit actual =>
    .plain <| "Resource limit exceeded: " ++ name.text ++
      "\n  Limit: " ++ ParseError.quantity name limit ++
      "\n  Actual: " ++ ParseError.quantity name actual ++
      "\n  " ++ ParseError.remedy name

/-- A complaint in a line of its own. -/
def Complaint.error (text : String) : Complaint := .plain ("Error: " ++ text)

/-! ### Reading -/

/-- The content of a file, or why it cannot be read. -/
abbrev Files := String → Except String String

/-- The limits of a file, or the default ones. -/
def loadLimits (files : Files) : Option String → Except Complaint Limits
  | none => .ok {}
  | some name =>
    match files name with
    | .error cause => .error (.error ("Failed to read limits file " ++ name ++ ": " ++ cause))
    | .ok text =>
      match Limits.ofText? text with
      | some limits => .ok limits
      | none => .error (.error ("Invalid limits file " ++ name))

/-- The entries of a context file, or none. -/
def loadContext (files : Files) : Option String → Except Complaint Entries
  | none => .ok []
  | some name =>
    match files name with
    | .error cause => .error (.error ("Failed to read context file " ++ name ++ ": " ++ cause))
    | .ok text => (Entries.ofText text).mapError fun error => .plain error.message

/-- The entries with an assignment taken in. -/
def addAssignment (entries : Entries) (text : String) : Except Complaint Entries :=
  match readAssignment text with
  | .ok (key, value) => .ok (entries.insert key value)
  | .error error => .error (.error error.message)

/-- The expression that an operand writes. -/
def parseOperand (facts : Facts) (limits : Limits) (text : String) :
    Except Complaint Expression :=
  (Expression.parse facts limits text).mapError (Complaint.ofParseError text)

/-! ### Commands -/

/-- A text in a line of its own. -/
def line (text : String) : String := text ++ "\n"

/-- What a command prints. -/
def Command.output (files : Files) (facts : Facts) (limits : Limits) :
    Command → Except Complaint String
  | .normalize text => do
    let expression ← parseOperand facts limits text
    return line expression.render
  | .evaluate text assignments contextFile explained => do
    let expression ← parseOperand facts limits text
    let entries ← loadContext files contextFile
    let entries ← assignments.foldlM addAssignment entries
    if explained then return explain entries.context expression
    else return line (Value.booleanText (expression.evaluate entries.context))
  | .negate text => do
    let expression ← parseOperand facts limits text
    return line (expression.negate facts).render
  | .implies stronger weaker => do
    let stronger ← parseOperand facts limits stronger
    let weaker ← parseOperand facts limits weaker
    return line (Value.booleanText (stronger.implies weaker))
  | .equals left right => do
    let left ← parseOperand facts limits left
    let right ← parseOperand facts limits right
    return line (Value.booleanText (left == right))
  | .keys text => do
    let expression ← parseOperand facts limits text
    return String.join (expression.keys.map line)

/-- What an invocation prints. -/
def Invocation.output (files : Files) (invocation : Invocation) : Except Complaint String := do
  let limits ← loadLimits files invocation.limitsFile
  invocation.command.output files invocation.facts limits

/-- The name and the version of the program. -/
def versionText : String := "ctxkey 0.3.0"

/-- What the program is called with. -/
def usageText : String :=
  "Usage: ctxkey [--platform auto|mac|linux|windows|none] [--limits FILE] COMMAND\n\n" ++
  "Commands:\n" ++
  "  normalize EXPRESSION                      print the canonical form\n" ++
  "  eval EXPRESSION [KEY=VALUE]... [-c FILE] [-e]\n" ++
  "                                            evaluate against a context\n" ++
  "  negate EXPRESSION                         print the canonical negation\n" ++
  "  implies P Q                               print whether P implies Q\n" ++
  "  equals A B                                print whether A and B are equal\n" ++
  "  keys EXPRESSION                           list the context keys read"

/-- The answer to a request. -/
def run (files : Files) : Request → Answer
  | .help => .success (line usageText)
  | .version => .success (line versionText)
  | .misuse => .misuse
  | .run invocation =>
    match invocation.output files with
    | .ok output => .success output
    | .error complaint => .failure complaint

end WhenClause.CommandLine
