/-
**The grammar of expressions.**

From loose to tight: alternatives joined by `||`, conjuncts joined by `&&`, and a test or a group
with negation marks before it. Alternatives of a production are tried in the order given, and the
first that succeeds is taken.

Groups are the only recursion: `disjunction size depth` reads groups nested less than `depth` deep,
each with at most `size` parts. `read` allows as many of both as the text has characters.
-/

import WhenClause.Grammar.Reader
import WhenClause.Grammar.Word
import WhenClause.Grammar.Formula
import WhenClause.Text.Quoted

namespace WhenClause.Grammar

open Reader

/-! ### Keys and values -/

/-- Text between quotes. -/
def quotedString : Reader (List Char) :=
  whole .quotedString fun text =>
    match text with
    | '\'' :: rest =>
      match Quoted.splitBody rest with
      | (body, '\'' :: _) => some (Quoted.unescape body, body.length + 2)
      | _ => none
    | _ => none

def identifier : Reader (List Char) := whole .identifier takeIdentifier

def key : Reader (List Char) := named .key (orElse quotedString identifier)

def trueWord : Reader Unit := whole .trueWord (takeWord "true".toList)

def falseWord : Reader Unit := whole .falseWord (takeWord "false".toList)

def inWord : Reader Unit := whole .inWord (takeWord "in".toList)

def notWord : Reader Unit := whole .notWord (takeWord "not".toList)

def number : Reader WrittenValue := do
  let first ← position
  let digits ← whole .number takeNumber
  return .number digits ⟨first, ← position⟩

def value : Reader WrittenValue :=
  named .value <| firstOf [
    (do trueWord; return .boolean true),
    (do falseWord; return .boolean false),
    number,
    (do return .string (← quotedString)),
    (do return .string (← identifier))]

/-! ### Operators -/

/-- One operator, a construct of its own. -/
def operatorMark (construct : Construct) (text : String) (operator : Operator) : Reader Operator :=
  named construct do
    mark text.toList
    return operator

def operator : Reader Operator :=
  named .operator <| firstOf [
    operatorMark .strictEqual "===" .equal,
    operatorMark .strictDiffer "!==" .differ,
    operatorMark .equal "==" .equal,
    operatorMark .differ "!=" .differ,
    operatorMark .atLeast ">=" (.ordered .atLeast),
    operatorMark .atMost "<=" (.ordered .atMost),
    operatorMark .greater ">" (.ordered .greater),
    operatorMark .less "<" (.ordered .less)]

/-! ### Tests -/

/-- A pattern literal: source, flags and extent. -/
def patternLiteral : Reader (List Char × List Char × Extent) :=
  named .patternLiteral do
    let first ← position
    mark ['/']
    let source ← whole .patternSource takeSource
    mark ['/']
    let flags ← whole .patternLiteral takeFlags
    return (source, flags, ⟨first, ← position⟩)

def patternTest : Reader WrittenTest :=
  named .patternTest do
    let name ← key
    gap
    mark ['=', '~']
    gap
    let (source, flags, extent) ← patternLiteral
    return .matching name source flags extent

def notInTest : Reader WrittenTest :=
  named .notInTest do
    let name ← key
    gap
    notWord
    gap
    inWord
    gap
    return .notMember name (← key)

def inTest : Reader WrittenTest :=
  named .inTest do
    let name ← key
    gap
    inWord
    gap
    return .member name (← key)

def comparison : Reader WrittenTest :=
  named .comparison do
    let name ← key
    gap
    let operator ← operator
    gap
    return .compare name operator (← value)

def keyTest : Reader WrittenTest :=
  named .keyTest do return .has (← key)

/-- A test, in the order in which its forms are tried. -/
def test : Reader WrittenTest :=
  firstOf [
    patternTest,
    notInTest,
    inTest,
    comparison,
    (do trueWord; return .constant true),
    (do falseWord; return .constant false),
    keyTest]

/-! ### Joins -/

/-- An expression between parentheses. -/
def group (inner : Reader Formula) : Reader Formula :=
  named .group do
    mark ['(']
    gap
    let formula ← inner
    gap
    mark [')']
    return formula

def primary (inner : Reader Formula) : Reader Formula :=
  named .primary <| orElse (group inner) (do return .test (← test))

def negationMark : Reader Unit := named .negationMark (mark ['!'])

/-- Items with gaps between them, as many as there are. -/
def repeatedly {α : Type} (size : Nat) (item : Reader α) : Reader (List α) :=
  orElse
    (do
      let first ← item
      let rest ← many size (do gap; item)
      return first :: rest)
    (return [])

/-- A formula behind so many negation marks. -/
def negated (marks : Nat) (formula : Formula) : Formula :=
  if marks % 2 = 1 then .negation formula else formula

def unary (size : Nat) (inner : Reader Formula) : Reader Formula :=
  named .unary do
    let marks ← repeatedly size negationMark
    gap
    return negated marks.length (← primary inner)

/-- Items with a mark between any two. -/
def joined (size : Nat) (separator : List Char) (item : Reader Formula) :
    Reader (List Formula) := do
  let first ← item
  gap
  let rest ← repeatedly size do
    mark separator
    gap
    item
  return first :: rest

def conjunction (size : Nat) (inner : Reader Formula) : Reader Formula :=
  named .conjunction do return .all (← joined size ['&', '&'] (unary size inner))

def disjunctionOf (size : Nat) (inner : Reader Formula) : Reader Formula :=
  named .disjunction do return .any (← joined size ['|', '|'] (conjunction size inner))

/-- An expression with groups nested less than `depth` deep. -/
def disjunction (size : Nat) : Nat → Reader Formula
  | 0, _ => ⟨none, .none⟩
  | depth + 1, cursor => disjunctionOf size (disjunction size depth) cursor

def endOfInput : Reader Unit :=
  whole .endOfInput fun text => if text.isEmpty then some ((), 0) else none

/-- A whole text. -/
def expression (size : Nat) : Reader Formula :=
  named .expression do
    gap
    let formula ← disjunction size size
    gap
    endOfInput
    return formula

/-- The formula of a text, or where and what it was expected to continue with. -/
def read (text : List Char) : Except Attempts Formula :=
  let outcome := expression (text.length + 1) (.start text)
  match outcome.result with
  | some (formula, _) => .ok formula
  | none => .error outcome.attempts

end WhenClause.Grammar
