/-
**Readers.**

A `Reader` takes a `Cursor`, the rest of a text with the position of its start, and gives an
`Outcome`: what it read and the cursor behind it, if it succeeds, and in any case the record of what
was tried. A failed reader moves nothing, so `orElse` goes on from the same cursor, and what was
read is never taken back later: `many` takes as many as there are.
-/

import WhenClause.Grammar.Expectation
import WhenClause.Text.Blank

namespace WhenClause.Grammar

/-- The rest of a text, and the number of characters before it. -/
structure Cursor where
  position : Nat
  rest : List Char
  deriving DecidableEq, Repr

namespace Cursor

def start (text : List Char) : Cursor := ⟨0, text⟩

/-- The cursor behind so many more characters. -/
def advance (cursor : Cursor) (count : Nat) : Cursor :=
  ⟨cursor.position + count, cursor.rest.drop count⟩

/-- The cursor behind the gap in front. -/
def skipGap (cursor : Cursor) : Cursor := cursor.advance (cursor.rest.takeWhile isGap).length

end Cursor

/-- What a reader leaves. -/
structure Outcome (α : Type) where
  result : Option (α × Cursor)
  attempts : Attempts

/-- A reader of an `α`. -/
abbrev Reader (α : Type) := Cursor → Outcome α

namespace Reader

variable {α β : Type}

/-- Reads nothing. -/
def succeed (value : α) : Reader α := fun cursor => ⟨some (value, cursor), .none⟩

/-- Reads one thing, and then another that depends on it. -/
def bind (first : Reader α) (second : α → Reader β) : Reader β := fun cursor =>
  match first cursor with
  | ⟨none, attempts⟩ => ⟨none, attempts⟩
  | ⟨some (value, cursor), attempts⟩ =>
    let outcome := second value cursor
    ⟨outcome.result, attempts.merge outcome.attempts⟩

instance : Monad Reader where
  pure := succeed
  bind := bind

/-- The first reader that succeeds. -/
def orElse (first second : Reader α) : Reader α := fun cursor =>
  match first cursor with
  | ⟨some read, attempts⟩ => ⟨some read, attempts⟩
  | ⟨none, attempts⟩ =>
    let outcome := second cursor
    ⟨outcome.result, attempts.merge outcome.attempts⟩

/-- The first of several readers that succeeds. -/
def firstOf (readers : List (Reader α)) : Reader α :=
  readers.foldr orElse fun _ => ⟨none, .none⟩

/-- A reader whose failure is that of a construct. -/
def named (construct : Construct) (reader : Reader α) : Reader α := fun cursor =>
  match reader cursor with
  | ⟨some read, attempts⟩ => ⟨some read, attempts⟩
  | ⟨none, attempts⟩ => ⟨none, attempts.within construct cursor.position⟩

/-- A construct without parts: how much of the text in front it takes up, and what it is. -/
def whole (construct : Construct) (take : List Char → Option (α × Nat)) : Reader α := fun cursor =>
  match take cursor.rest with
  | some (value, length) => ⟨some (value, cursor.advance length), .none⟩
  | none => ⟨none, .single cursor.position construct⟩

/-- Skips a gap. -/
def gap : Reader Unit := fun cursor => ⟨some ((), cursor.skipGap), .none⟩

/-- A mark, which is no construct of its own. -/
def mark (text : List Char) : Reader Unit := fun cursor =>
  if text.isPrefixOf cursor.rest then ⟨some ((), cursor.advance text.length), .none⟩
  else ⟨none, .none⟩

/-- The position of the cursor. -/
def position : Reader Nat := fun cursor => ⟨some (cursor.position, cursor), .none⟩

/-- `many` behind the items `before`, the last one first, and what was tried for them. -/
def manyFrom (item : Reader α) : Nat → List α → Attempts → Reader (List α)
  | 0, before, attempts, cursor => ⟨some (before.reverse, cursor), attempts⟩
  | size + 1, before, attempts, cursor =>
    match item cursor with
    | ⟨some (value, next), more⟩ => manyFrom item size (value :: before) (attempts.merge more) next
    | ⟨none, more⟩ => ⟨some (before.reverse, cursor), attempts.merge more⟩

/-- As many items as there are, at most `size`. -/
def many (size : Nat) (item : Reader α) : Reader (List α) := manyFrom item size [] .none

end Reader

end WhenClause.Grammar
