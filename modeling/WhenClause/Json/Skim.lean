/-
**Passing over JSON text.**

`Json.afterValue` is what follows a value of which nothing but its form is wanted. The form is the
one that `Json.read` asks for, but numbers may be of any size, escapes in strings may write half a
pair of surrogates, containers may be nested to any depth, and keys may be repeated.
-/

import WhenClause.Json.Reader

namespace WhenClause.Json

/-! ### Strings -/

/-- What follows the closing quote of a string. -/
def afterString : List Char → Option (List Char)
  | [] => none
  | '"' :: rest => some rest
  | '\\' :: 'u' :: first :: second :: third :: fourth :: rest =>
    if (hexUnit? first second third fourth).isSome then afterString rest else none
  | '\\' :: letter :: rest => if (escapedChar? letter).isSome then afterString rest else none
  | c :: rest => if c.toNat < 0x20 ∨ c = '\\' then none else afterString rest

/-! ### Numbers -/

/-- What follows digits, if there is one. -/
def afterDigits (text : List Char) : Option (List Char) :=
  let (digits, rest) := splitDigits text
  if digits.isEmpty then none else some rest

/-- What follows an exponent, if the text begins with one. -/
def afterExponent : List Char → Option (List Char)
  | 'e' :: rest | 'E' :: rest => afterDigits (splitSign rest).2
  | text => some text

/-- What follows the fraction and the exponent of a number. -/
def afterFraction : List Char → Option (List Char)
  | '.' :: rest => (afterDigits rest).bind afterExponent
  | text => afterExponent text

/-- What follows a number without a sign. No digit may stand behind a zero in front. -/
def afterUnsigned : List Char → Option (List Char)
  | '0' :: rest => if rest.head?.any Char.isDigit then none else afterFraction rest
  | text => (afterDigits text).bind afterFraction

/-! ### Values -/

/-- What follows a value without parts. -/
def afterPlain (text : List Char) : Option (List Char) :=
  match text with
  | '"' :: rest => afterString rest
  | 'n' :: _ => afterWord "null".toList text
  | 't' :: _ => afterWord "true".toList text
  | 'f' :: _ => afterWord "false".toList text
  | '-' :: rest => afterUnsigned rest
  | text => afterUnsigned text

/-- A container that is open. -/
inductive Container where
  | array
  | object
  deriving DecidableEq, Repr

/-- What the text goes on with inside the containers that are open. -/
inductive Place where
  | value
  | key
  | behind
  deriving DecidableEq, Repr

/-- One part of the text passed over: the place behind it, the containers then open, innermost
first, and the rest. -/
def skimPart (place : Place) (containers : List Container) (text : List Char) :
    Option (Place × List Container × List Char) :=
  match place, containers, skipJsonBlanks text with
  | .value, _, '[' :: rest =>
    match skipJsonBlanks rest with
    | ']' :: rest => some (.behind, containers, rest)
    | rest => some (.value, .array :: containers, rest)
  | .value, _, '\x7b' :: rest =>
    match skipJsonBlanks rest with
    | '\x7d' :: rest => some (.behind, containers, rest)
    | rest => some (.key, .object :: containers, rest)
  | .value, _, text => (afterPlain text).map (.behind, containers, ·)
  | .key, _, '"' :: rest => do
    match skipJsonBlanks (← afterString rest) with
    | ':' :: rest => some (.value, containers, rest)
    | _ => none
  | .behind, .array :: _, ',' :: rest => some (.value, containers, rest)
  | .behind, .object :: _, ',' :: rest => some (.key, containers, rest)
  | .behind, .array :: outer, ']' :: rest => some (.behind, outer, rest)
  | .behind, .object :: outer, '\x7d' :: rest => some (.behind, outer, rest)
  | _, _, _ => none

/-- The text behind the containers that are open. Each part takes up a character, so `size`, above
the length of the text, bounds the number of parts. -/
def skim (size : Nat) (place : Place) (containers : List Container) (text : List Char) :
    Option (List Char) :=
  match size, place, containers with
  | _, .behind, [] => some text
  | 0, _, _ => none
  | size + 1, _, _ => do
    let (place, containers, rest) ← skimPart place containers text
    skim size place containers rest

/-- What follows the value that a text begins with. -/
def afterValue (text : List Char) : Option (List Char) := skim (text.length + 1) .value [] text

end WhenClause.Json
