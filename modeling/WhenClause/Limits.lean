/-
**Limits on the reading of expressions.**

Expressions come from configuration, so their length in bytes, the nesting of their groups and the
number of clauses held while they are brought into canonical form are limited. The limits can be
given in JSON; absent ones keep their defaults, and members with other names have no meaning.
-/

import WhenClause.Json.Printer
import WhenClause.Json.Skim
import WhenClause.Unicode.Derived

namespace WhenClause

structure Limits where
  expressionBytes : Nat := 64 * 1024
  nestingDepth : Nat := 100
  clauses : Nat := 256
  deriving DecidableEq, Repr

/-- One of the limits. -/
inductive LimitName where
  | expressionBytes
  | nestingDepth
  | clauses
  deriving DecidableEq, Repr

/-- The limits in order. -/
def LimitName.all : List LimitName := [.expressionBytes, .nestingDepth, .clauses]

/-- The name of a limit in messages and in JSON. -/
def LimitName.text : LimitName → String
  | .expressionBytes => "max_expression_bytes"
  | .nestingDepth => "max_nesting_depth"
  | .clauses => "max_clauses"

/-! ### JSON of an unexpected kind -/

/-- Characters that a message does not show as they are: those without a shape of their own, and
those that join the one before. -/
def hiddenCharacters : CharSet :=
  (CharSet.unionAll [Unicode.other, Unicode.separator, Unicode.graphemeExtend]).difference
    (.singleton ' ')

/-- One character of a text between quotes in a message. -/
def shownCharacter (c : Char) : List Char :=
  match c with
  | '"' => "\\\"".toList
  | '\\' => "\\\\".toList
  | '\x00' => "\\0".toList
  | '\n' => "\\n".toList
  | '\r' => "\\r".toList
  | '\t' => "\\t".toList
  | _ =>
    if hiddenCharacters.contains c then
      "\\u\x7b".toList ++ Nat.toDigits 16 c.toNat ++ ['\x7d']
    else [c]

/-- A JSON value, as messages about its kind show it. -/
def Json.shown : Json → String
  | .null => "null"
  | .boolean value => "boolean `" ++ (if value then "true" else "false") ++ "`"
  | .number (.integer value) => "integer `" ++ toString value ++ "`"
  | .number (.double value) => "floating point `" ++ String.ofList value.jsonText ++ "`"
  | .string value =>
    "string " ++ String.ofList ('"' :: value.toList.flatMap shownCharacter ++ ['"'])
  | .array _ => "sequence"
  | .object _ => "map"

/-- The message about a JSON value of the wrong kind. -/
def Json.kindMessage (value : Json) (expected : String) : String :=
  "invalid type: " ++ value.shown ++ ", expected " ++ expected

/-! ### Limits from JSON -/

/-- A JSON number as a limit: an integer of 64 unsigned bits. -/
def limitOfJson (value : Json) : Except String Nat :=
  match value with
  | .number (.integer number) =>
    if 0 ≤ number then .ok number.toNat
    else .error ("invalid value: integer `" ++ toString number ++ "`, expected usize")
  | value => .error (value.kindMessage "usize")

namespace Limits

/-- The limits with one of them replaced. -/
def set (limits : Limits) (name : LimitName) (limit : Nat) : Limits :=
  match name with
  | .expressionBytes => { limits with expressionBytes := limit }
  | .nestingDepth => { limits with nestingDepth := limit }
  | .clauses => { limits with clauses := limit }

/-- The limits with one member of an object taken in. -/
def addMember (limits : Limits) (member : String × Json) : Except String Limits :=
  match LimitName.all.find? (·.text == member.1) with
  | some name => (limitOfJson member.2).map (limits.set name)
  | none => .ok limits

/-- The limits with the items of an array taken in, one for each name. -/
def addItems (limits : Limits) : List LimitName → List Json → Except String Limits
  | _, [] => .ok limits
  | [], _ => .ok limits
  | name :: names, item :: items => do
    let limit ← limitOfJson item
    addItems (limits.set name limit) names items

/-- The limits that a JSON value gives: an object by name, or an array in the order of the names. -/
def ofJson (value : Json) : Except String Limits :=
  match value with
  | .object entries => entries.foldlM addMember {}
  | .array items => do
    let limits ← addItems {} LimitName.all items
    if LimitName.all.length < items.length then
      .error ("invalid length " ++ toString items.length ++ ", expected fewer elements in array")
    else return limits
  | value => .error (value.kindMessage "struct ResourceLimits")

/-- The value of a member in front of a text, and what follows it. Of the members that set no limit
only the form matters, and they count as null. -/
def readMember (size : Nat) (key : String) (text : List Char) : Option (Json × List Char) :=
  if LimitName.all.any (·.text == key) then Json.readValue size (Json.defaultDepth - 1) text
  else (Json.afterValue text).map (.null, ·)

/-- The limits that a JSON text gives. No limit may be given twice. -/
def ofText? (text : String) : Option Limits :=
  match Json.readObjectBy (readMember text.length) text with
  | some members =>
    let names := (members.map (·.1)).filter fun key => LimitName.all.any (·.text == key)
    if names.eraseDups.length < names.length then none
    else (members.foldlM addMember {}).toOption
  | none =>
    match Json.read text with
    | some value => (ofJson value).toOption
    | none => none

end Limits

end WhenClause
