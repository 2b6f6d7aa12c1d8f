/-
**Shapes of patterns.**

The shape of a pattern is the form in which it is measured: groups without a number are gone,
neighbouring characters are one text, and sequences and choices are flat. `Shape.sequence`,
`Shape.choice` and `Shape.repeated` keep shapes in this form. `shortest` and `longest` bound the
bytes of a match.

A choice between single characters, or between sets, is a set; a choice between sequences that begin
alike is the common beginning and a choice between what remains.
-/

import WhenClause.Regex.Bytes
import WhenClause.Regex.Pattern

namespace WhenClause.Regex

/-- The longest common beginning of two lists. -/
def commonPrefix {α : Type} [DecidableEq α] : List α → List α → List α
  | first :: rest, first' :: rest' =>
    if first = first' then first :: commonPrefix rest rest' else []
  | _, _ => []

/-- What a pattern amounts to. A `lazy` repetition tries fewer copies first. -/
inductive Shape where
  | empty
  | text (characters : List Char)
  | set (members : CharSet)
  | condition (assertion : Assertion)
  | repetition (body : Shape) (least : Nat) (most : Option Nat) (isLazy : Bool)
  | group (number : Nat) (body : Shape)
  | both (first second : Shape)
  | either (first second : Shape)
  deriving DecidableEq, Repr

namespace Shape

/-! ### Bounds -/

/-- The least number of bytes of a match; `none` where some part matches nothing. -/
def shortest : Shape → Option Nat
  | empty => some 0
  | text characters => some (characters.map (byteCount ·.toNat)).sum
  | set members => members.ranges.head?.map fun (first, _) => byteCount first
  | condition _ => some 0
  | repetition body least _ _ => body.shortest.map (· * least)
  | group _ body => body.shortest
  | both first second => do return (← first.shortest) + (← second.shortest)
  | either first second => do return min (← first.shortest) (← second.shortest)

/-- The greatest number of bytes of a match, if there is one. -/
def longest : Shape → Option Nat
  | empty => some 0
  | text characters => some (characters.map (byteCount ·.toNat)).sum
  | set members => members.ranges.getLast?.map fun (_, last) => byteCount last
  | condition _ => some 0
  | repetition body _ most _ => do return (← body.longest) * (← most)
  | group _ body => body.longest
  | both first second => do return (← first.longest) + (← second.longest)
  | either first second => do return max (← first.longest) (← second.longest)

/-- Whether every match begins at the start of the text by a condition. -/
def beginsAtStart : Shape → Bool
  | condition assertion => assertion = .textStart
  | repetition body least _ _ => 0 < least && body.beginsAtStart
  | group _ body => body.beginsAtStart
  | both first second =>
    first.beginsAtStart || (first.longest = some 0 && second.beginsAtStart)
  | either first second => first.beginsAtStart && second.beginsAtStart
  | _ => false

/-- Whether every match ends at the end of the text by a condition. -/
def endsAtEnd : Shape → Bool
  | condition assertion => assertion = .textEnd
  | repetition body least _ _ => 0 < least && body.endsAtEnd
  | group _ body => body.endsAtEnd
  | both first second => second.endsAtEnd || (second.longest = some 0 && first.endsAtEnd)
  | either first second => first.endsAtEnd && second.endsAtEnd
  | _ => false

/-! ### Flat forms -/

def sequenceParts : Shape → List Shape
  | both first second => first.sequenceParts ++ second.sequenceParts
  | shape => [shape]

def choiceParts : Shape → List Shape
  | either first second => first.choiceParts ++ second.choiceParts
  | shape => [shape]

/-- A set of characters; one character by itself is a text. -/
def ofSet (members : CharSet) : Shape :=
  let members := members.difference (.ofRanges [(0xd800, 0xdfff)])
  match members.ranges with
  | [(first, last)] => if first = last then text [Char.ofNat first] else set members
  | _ => set members

/-- A part in front of a sequence, joined with a text at its front. -/
def prepend : Shape → List Shape → List Shape
  | empty, parts => parts
  | text characters, text rest :: parts => text (characters ++ rest) :: parts
  | part, parts => part :: parts

/-- Parts one after another, from the first one on. -/
def joined : List Shape → Shape
  | [] => empty
  | [part] => part
  | part :: rest => both part (joined rest)

/-- Shapes one after another. -/
def sequence (shapes : List Shape) : Shape :=
  joined ((shapes.flatMap sequenceParts).foldr prepend [])

/-- One of several alternatives, from the first one on. -/
def alternatives : List Shape → Shape
  | [] => set .empty
  | [part] => part
  | part :: rest => either part (alternatives rest)

/-- The character that is all of a shape. -/
def character? : Shape → Option Char
  | text [c] => some c
  | _ => none

def members? : Shape → Option CharSet
  | set members => some members
  | _ => none

/-- One of several shapes, with single characters and sets taken together. -/
def choiceOf (shapes : List Shape) : Shape :=
  let parts := shapes.flatMap choiceParts
  if parts.length ≤ 1 then alternatives parts
  else
    match parts.mapM character?, parts.mapM members? with
    | some characters, _ => ofSet (.unionAll (characters.map .singleton))
    | _, some sets => ofSet (.unionAll sets)
    | none, none => alternatives parts

/-- The parts of each alternative, if all of them are sequences of several parts. -/
def sequences? (parts : List Shape) : Option (List (List Shape)) :=
  parts.mapM fun part =>
    match part with
    | both _ _ => some part.sequenceParts
    | _ => none

/-- One of several shapes. -/
def choice (shapes : List Shape) : Shape :=
  let whole := choiceOf shapes
  match sequences? whole.choiceParts with
  | some (first :: second :: rest) =>
    let common := (second :: rest).foldl commonPrefix first
    if common.isEmpty then whole
    else
      let remains := (first :: second :: rest).map fun parts =>
        sequence (parts.drop common.length)
      sequence (common ++ [choiceOf remains])
  | _ => whole

/-- A shape repeated. What matches only the empty text is repeated once at most; no copy is empty,
and a single one is the shape itself. -/
def repeated (body : Shape) (least : Nat) (most : Option Nat) (isLazy : Bool) : Shape :=
  let (least, most) :=
    if body.longest = some 0 then (min least 1, some (min (most.getD 1) 1)) else (least, most)
  if most = some 0 then empty
  else if least = 1 ∧ most = some 1 then body
  else repetition body least most isLazy

end Shape

end WhenClause.Regex
