/-
**Regular patterns and what they match.**

A `Pattern` is built from character sets and assertions about a position by sequence, choice and
repetition. `Pattern.ends` sends a set of positions of a text to the set of positions at which a
match from one of them can end; `Pattern.occursIn` asks for a match anywhere in a text.

A position is the number of characters before it. A set of positions is the natural number whose
bits tell the members.
-/

import WhenClause.Unicode.Property

namespace WhenClause.Regex

/-! ### Patterns -/

/-- What a position must have on its two sides, seen as word characters. -/
inductive WordEdge where
  | boundary
  | inside
  | start
  | stop
  | startHalf
  | stopHalf
  deriving DecidableEq, Repr

/-- A condition on a position that takes up no characters. With `carriageReturn` a line also ends at
a carriage return. -/
inductive Assertion where
  | textStart
  | textEnd
  | lineStart (carriageReturn : Bool)
  | lineEnd (carriageReturn : Bool)
  | word (edge : WordEdge) (members : CharSet)
  deriving DecidableEq, Repr

inductive Pattern where
  | empty
  | set (members : CharSet)
  | assertion (condition : Assertion)
  | sequence (first second : Pattern)
  | choice (first second : Pattern)
  | repetition (body : Pattern) (least : Nat) (most : Option Nat)
  deriving Repr, Inhabited

namespace Pattern

/-- Patterns one after another. -/
def sequenceAll (patterns : List Pattern) : Pattern := patterns.foldr sequence empty

/-- One of several patterns; none of them where the list is empty. -/
def choiceAll (patterns : List Pattern) : Pattern := patterns.foldr choice (set .empty)

end Pattern

/-! ### Positions -/

/-- Whether a condition holds between two characters, each absent at an end of the text. -/
def Assertion.holdsBetween (before behind : Option Char) : Assertion → Bool
  | .textStart => before.isNone
  | .textEnd => behind.isNone
  | .lineStart carriageReturn =>
    match before with
    | none => true
    | some '\n' => true
    | some '\r' => carriageReturn && behind != some '\n'
    | some _ => false
  | .lineEnd carriageReturn =>
    match behind with
    | none => true
    | some '\n' => !(carriageReturn && before == some '\r')
    | some '\r' => carriageReturn
    | some _ => false
  | .word edge members =>
    let wordBefore := before.any members.contains
    let wordBehind := behind.any members.contains
    match edge with
    | .boundary => wordBefore != wordBehind
    | .inside => wordBefore == wordBehind
    | .start => !wordBefore && wordBehind
    | .stop => wordBefore && !wordBehind
    | .startHalf => !wordBefore
    | .stopHalf => !wordBehind

/-- The set whose members are the indices of the true entries. -/
def positionsOf (entries : List Bool) : Nat :=
  entries.foldr (fun entry rest => 2 * rest + entry.toNat) 0

/-- The positions in front of a member of a character set. -/
def positionsBefore (text : List Char) (members : CharSet) : Nat :=
  positionsOf (text.map members.contains)

/-- The positions at which a condition holds. -/
def positionsAt (text : List Char) (condition : Assertion) : Nat :=
  let around := (none :: text.map some).zip (text.map some ++ [none])
  positionsOf (around.map fun (before, behind) => condition.holdsBetween before behind)

/-! ### Matching -/

/-- All positions reached from given ones by at most `rounds` steps. Each round adds a position or
is the last, so that as many rounds as there are positions stand for any number. -/
def closePositions (step : Nat → Nat) : Nat → Nat → Nat
  | 0, reached => reached
  | rounds + 1, reached =>
    let next := reached ||| step reached
    if next = reached then reached else closePositions step rounds next

/-- The positions reached by a step taken a number of times. Once a step changes nothing, no later
one does. -/
def repeatPositions (step : Nat → Nat) : Nat → Nat → Nat
  | 0, reached => reached
  | count + 1, reached =>
    let next := step reached
    if next = reached then reached else repeatPositions step count next

namespace Pattern

/-- The ends of the matches that begin at given positions. -/
def ends (text : List Char) : Pattern → Nat → Nat
  | empty, starts => starts
  | set members, starts => (starts &&& positionsBefore text members) <<< 1
  | assertion condition, starts => starts &&& positionsAt text condition
  | sequence first second, starts => ends text second (ends text first starts)
  | choice first second, starts => ends text first starts ||| ends text second starts
  | repetition body least most, starts =>
    let required := repeatPositions (ends text body) least starts
    closePositions (ends text body) ((most.map (· - least)).getD (text.length + 1)) required

/-- Whether some part of a text matches. -/
def occursIn (pattern : Pattern) (text : String) : Bool :=
  let characters := text.toList
  pattern.ends characters (Nat.pow 2 (characters.length + 1) - 1) != 0

end Pattern

end WhenClause.Regex
