/-
**JSON values.**

A number keeps its exact integer value where it has one within 64 bits, and is a `Double` otherwise.
The entries of an object are sorted by key, each key once (`Entries.insert`); keys are ordered by
code point, which is also the order of their UTF-8 bytes.
-/

import WhenClause.Number.Double

namespace WhenClause

/-- A JSON number: an integer of 64 bits, signed or unsigned, or a binary64 number. -/
inductive JsonNumber where
  | integer (value : Int)
  | double (value : Double)
  deriving DecidableEq, Repr

/-- The number rounded to binary64. -/
def JsonNumber.toDouble : JsonNumber → Double
  | .integer value => Double.ofInt value
  | .double value => value

/-- A JSON value. -/
inductive Json where
  | null
  | boolean (value : Bool)
  | number (value : JsonNumber)
  | string (value : String)
  | array (items : List Json)
  | object (entries : List (String × Json))
  deriving Repr, Inhabited

/-- The entries of an object, sorted by key. -/
abbrev Entries := List (String × Json)

namespace Entries

/-- The entries with one more; a key that is there already gets the new value. -/
def insert (key : String) (value : Json) : Entries → Entries
  | [] => [(key, value)]
  | (other, old) :: rest =>
    if key = other then (key, value) :: rest
    else if key < other then (key, value) :: (other, old) :: rest
    else (other, old) :: insert key value rest

/-- The entries of members in any order; of two members with one key the later one stays. -/
def ofMembers (members : List (String × Json)) : Entries :=
  members.foldl (fun entries (key, value) => entries.insert key value) []

/-- The value under a key. -/
def find? (entries : Entries) (key : String) : Option Json := entries.lookup key

end Entries

namespace Json

def isNumber : Json → Bool
  | .number _ => true
  | _ => false

/-- The kind of a value, as a noun phrase. -/
def kind : Json → String
  | .null => "null"
  | .boolean _ => "a boolean"
  | .number _ => "a number"
  | .string _ => "a string"
  | .array _ => "an array"
  | .object _ => "an object"

/-- The value under a key of an object; other values have no keys. -/
def find? (value : Json) (key : String) : Option Json :=
  match value with
  | .object entries => Entries.find? entries key
  | _ => none

end Json

end WhenClause
