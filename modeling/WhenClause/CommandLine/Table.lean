/-
**Tables in boxes.**

A table has a header and rows. Its columns are as wide as their widest cell, with a blank on either
side; a cell may have several lines.
-/

import WhenClause.Unicode.Width

namespace WhenClause.CommandLine

/-- A header and rows of as many cells. -/
structure Table where
  header : List String
  rows : List (List String)

namespace Table

/-- The lines of a text, as characters. -/
def linesOf (text : String) : List (List Char) :=
  text.toList.foldr (fun c lines =>
    match lines with
    | [] => [[c]]
    | line :: rest => if c = '\n' then [] :: line :: rest else (c :: line) :: rest) [[]]

/-- The columns that a cell takes up. -/
def cellWidth (cell : String) : Nat := ((linesOf cell).map Unicode.textWidth).foldl max 0

/-- The widths of the columns. -/
def widths (table : Table) : List Nat :=
  table.rows.foldl (fun widths row => widths.zipWith max (row.map cellWidth))
    (table.header.map cellWidth)

/-- A line of a cell with blanks up to a width. -/
def padded (width : Nat) (line : List Char) : List Char :=
  line ++ List.replicate (width - Unicode.textWidth line) ' '

/-- A horizontal rule: its left end, its stroke, its crossings and its right end. -/
def rule (left stroke crossing right : Char) (widths : List Nat) : List Char :=
  let strokes := widths.map fun width => List.replicate (width + 2) stroke
  left :: [crossing].intercalate strokes ++ [right]

/-- The lines of a row of cells. -/
def rowLines (widths : List Nat) (row : List String) : List (List Char) :=
  let cells := row.map linesOf
  let height := (cells.map List.length).foldl max 0
  (List.range height).map fun index =>
    let texts := widths.zipWith (fun width (lines : List (List Char)) =>
      ' ' :: padded width (lines[index]?.getD []) ++ [' ']) cells
    '│' :: ['┆'].intercalate texts ++ ['│']

/-- The whole table, without a line end behind it. -/
def render (table : Table) : String :=
  let widths := table.widths
  let top := rule '┌' '─' '┬' '┐' widths
  let below := rule '╞' '═' '╪' '╡' widths
  let between := rule '├' '╌' '┼' '┤' widths
  let bottom := rule '└' '─' '┴' '┘' widths
  let rows := table.rows.map (rowLines widths)
  let body := [between].intercalate rows
  String.ofList <| ['\n'].intercalate
    (top :: rowLines widths table.header ++ below :: body ++ [bottom])

end Table

end WhenClause.CommandLine
