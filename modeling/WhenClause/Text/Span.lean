/-
**Places in a text.**

A `Span` covers a range of bytes and knows the line and the column of its start, both counted from
one, the column in characters.

* `Span.atOffset` is the empty span at a byte offset.
* `LineColumn.after` walks forward through the characters before a place; `Span.between` uses it for
  the range between two character positions.

A line ends at a line feed, so also at a carriage return with a line feed; a carriage return alone
is an ordinary character.
-/

namespace WhenClause

/-- A line and a column, both counted from one. -/
structure LineColumn where
  line : Nat
  column : Nat
  deriving DecidableEq, Repr

namespace LineColumn

def start : LineColumn := ⟨1, 1⟩

/-- The place behind one more character. -/
def advance (place : LineColumn) (c : Char) : LineColumn :=
  if c = '\n' then ⟨place.line + 1, 1⟩ else ⟨place.line, place.column + 1⟩

/-- The place behind a text. -/
def after (text : List Char) : LineColumn := text.foldl advance start

end LineColumn

/-- The number of bytes of a text. -/
def byteLength (text : List Char) : Nat := text.foldl (fun bytes c => bytes + c.utf8Size) 0

/-- The longest beginning of a text within a number of bytes. -/
def takeBytes (text : List Char) (bytes : Nat) : List Char := go [] text bytes
where
  go (taken : List Char) : List Char → Nat → List Char
    | [], _ => taken.reverse
    | c :: rest, bytes =>
      if c.utf8Size ≤ bytes then go (c :: taken) rest (bytes - c.utf8Size) else taken.reverse

/-- A range of bytes, with the line and the column of its start. -/
structure Span where
  start : Nat
  stop : Nat
  line : Nat
  column : Nat
  deriving DecidableEq, Repr

namespace Span

/-- The empty span at a byte offset, at most the end of the text. -/
def atOffset (text : List Char) (offset : Nat) : Span :=
  let before := takeBytes text offset
  let offset := min offset (byteLength text)
  { start := offset
    stop := offset
    line := before.count '\n' + 1
    column := (before.reverse.takeWhile (· != '\n')).length + 1 }

/-- The span between two character positions. -/
def between (text : List Char) (first last : Nat) : Span :=
  let before := text.take first
  let place := LineColumn.after before
  { start := byteLength before
    stop := byteLength (text.take last)
    line := place.line
    column := place.column }

/-- Line and column as they stand in a message. -/
def render (span : Span) : String := toString span.line ++ ":" ++ toString span.column

end Span

end WhenClause
