/-
**Words, numbers and pattern literals in a text.**

The functions here take constructs without inner structure off the front of a text. A word is made
of characters that are no gap and no operator; it does not begin with `<` or `>`. A number is a word
of decimal digits with an optional sign `-`, fraction and exponent. The source of a pattern literal
ends at the first slash that stands outside an escape and outside a closed class `[…]`.
-/

import WhenClause.Text.Blank
import WhenClause.Number.Decimal

namespace WhenClause.Grammar

/-! ### Words -/

/-- Characters of a word. -/
def isWordCharacter (c : Char) : Bool := !isGap c && !"()!&|='~".toList.contains c

/-- The word in front of a text. -/
def wordOf (text : List Char) : List Char := text.takeWhile isWordCharacter

/-- The word in front of a text as an identifier. -/
def takeIdentifier (text : List Char) : Option (List Char × Nat) :=
  match text with
  | '<' :: _ => none
  | '>' :: _ => none
  | _ =>
    let word := wordOf text
    if word.isEmpty then none else some (word, word.length)

/-- A word of the language, alone in front of a text. -/
def takeWord (word text : List Char) : Option (Unit × Nat) :=
  if word.isPrefixOf text ∧ !(text.drop word.length).head?.any isWordCharacter then
    some ((), word.length)
  else none

/-! ### Numbers -/

/-- The length of a fraction, a point and digits, in front of a text. -/
def fractionLength : List Char → Nat
  | '.' :: rest =>
    let digits := rest.takeWhile Char.isDigit
    if digits.isEmpty then 0 else digits.length + 1
  | _ => 0

/-- The length of an exponent part in front of a text. -/
def exponentLength : List Char → Nat
  | [] => 0
  | mark :: rest =>
    if mark = 'e' ∨ mark = 'E' then
      let signLength := if rest.head? = some '+' ∨ rest.head? = some '-' then 1 else 0
      let digits := (rest.drop signLength).takeWhile Char.isDigit
      if digits.isEmpty then 0 else digits.length + signLength + 1
    else 0

/-- The number in front of a text, if a word ends behind it. -/
def takeNumber (text : List Char) : Option (List Char × Nat) :=
  let signLength := if text.head? = some '-' then 1 else 0
  let digits := (text.drop signLength).takeWhile Char.isDigit
  let length := signLength + digits.length
  let length := length + fractionLength (text.drop length)
  let length := length + exponentLength (text.drop length)
  if digits.isEmpty ∨ (text.drop length).head?.any isWordCharacter then none
  else some (text.take length, length)

/-! ### Pattern literals -/

/-- Whether a class is closed, seen from behind its opening bracket. -/
def closesClass : List Char → Bool
  | [] => false
  | '\\' :: _ :: rest => closesClass rest
  | c :: rest => c == ']' || closesClass rest

/-- `splitSource` behind the characters `before`, the last one first, within a class or not. -/
def splitSourceFrom (before : List Char) (inClass : Bool) : List Char → List Char × List Char
  | [] => (before.reverse, [])
  | '\\' :: escaped :: rest => splitSourceFrom (escaped :: '\\' :: before) inClass rest
  | c :: rest =>
    if inClass then splitSourceFrom (c :: before) (c != ']') rest
    else if c = '/' ∨ c = '\n' ∨ c = '\r' then (before.reverse, c :: rest)
    else splitSourceFrom (c :: before) (c == '[' && closesClass rest) rest

/-- The pattern source in front of a text, and the rest. An opening bracket begins a class only
where a closing one follows somewhere. -/
def splitSource (text : List Char) : List Char × List Char := splitSourceFrom [] false text

def takeSource (text : List Char) : Option (List Char × Nat) :=
  let source := (splitSource text).1
  if source.isEmpty then none else some (source, source.length)

/-- The letters in front of a text as flags. -/
def takeFlags (text : List Char) : Option (List Char × Nat) :=
  let flags := text.takeWhile Char.isAlpha
  some (flags, flags.length)

end WhenClause.Grammar
