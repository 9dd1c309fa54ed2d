import OnePass.Text.Bytes
import OnePass.Text.Utf8
import OnePass.Text.Width

/-
**Tables drawn with box characters.**

A table has a title, a heading and a footing for every column, and rows of cells between them.  A
column is as wide as its widest cell, counted in terminal columns.  A cell with line feeds makes its
row several lines high, and the other cells of the row stand at the top.

Main definitions:

* `OnePass.BoxTable` — a table;
* `OnePass.BoxTable.Cell.settle` — what is left of a cell when its carriage returns are obeyed;
* `OnePass.BoxTable.render` — **the drawing**.
-/

set_option relaxedAutoImplicit false
set_option autoImplicit false

namespace OnePass

open Bytes (ofString ofAscii)

namespace BoxTable

/-! ### Cells -/

namespace Cell

/-- Characters written over a line from its beginning, at each carriage return again. The characters
in front of the pen are held in reverse, those behind it are still to be overwritten. -/
def overwrite (before behind : List Char) : List Char → List Char
  | [] => before.reverse ++ behind
  | c :: rest =>
    if c = '\r' then overwrite [] (before.reverse ++ behind) rest
    else overwrite (c :: before) behind.tail rest

/-- A line as it looks once its carriage returns have been obeyed. -/
def settleLine (line : Bytes) : Bytes :=
  if line.contains Bytes.carriageReturn then
    Utf8.encode (overwrite [] [] (Utf8.chars line))
  else line

/-- The lines of a cell. A carriage return at the end of a line has no effect. -/
def settle (cell : Bytes) : List Bytes :=
  (Bytes.lines cell).map settleLine

/-- The terminal columns that a line takes. -/
def lineWidth (line : Bytes) : Nat :=
  Text.textWidth (Utf8.chars line)

/-- The terminal columns that a cell takes: those of its widest line. -/
def width (lines : List Bytes) : Nat :=
  (lines.map lineWidth).foldl max 0

end Cell

/-- A cell: its lines. -/
abbrev Cell := List Bytes

/-- Where a cell stands in its column. -/
inductive Align where
  /-- At the left edge. -/
  | left
  /-- At the right edge. -/
  | right
  deriving DecidableEq, Repr

/-- A column: its heading, its footing and where its cells stand. -/
structure Column where
  /-- What stands above the rows. -/
  heading : Bytes
  /-- What stands below the rows. -/
  footing : Bytes
  /-- Where the cells stand. -/
  align : Align

end BoxTable

/-- A table with a title. -/
structure BoxTable where
  /-- What stands above everything else. -/
  title : Bytes
  /-- The columns. -/
  columns : List BoxTable.Column
  /-- The rows: one cell for each column. -/
  rows : List (List Bytes)

namespace BoxTable

/-! ### Lines of the drawing -/

/-- Repeats a text. -/
def repeated (n : Nat) (s : Bytes) : Bytes :=
  (List.replicate n s).flatten

/-- A line of text moved to its place in a column of the given width. -/
def fit (align : Align) (width : Nat) (line : Bytes) : Bytes :=
  let blanks := List.replicate (width - Cell.lineWidth line) (ofAscii ' ')
  match align with
  | .left => line ++ blanks
  | .right => blanks ++ line

/-- A horizontal rule: its left end, what joins two columns, and its right end. -/
def rule (left joint right : String) (widths : List Nat) : Bytes :=
  let segments := widths.map fun width => repeated (width + 2) (ofString "─")
  ofString left ++ Bytes.join (ofString joint) segments ++ ofString right ++ [Bytes.newline]

/-- A line of cells between vertical rules. -/
def barred (cells : List Bytes) : Bytes :=
  ofString "│ " ++ Bytes.join (ofString " │ ") cells ++ ofString " │" ++ [Bytes.newline]

/-- A row of cells: as many lines as its highest cell has. -/
def row (layout : List (Align × Nat)) (cells : List Cell) : Bytes :=
  let height := (cells.map List.length).foldl max 0
  (List.range height).flatMap fun i =>
    barred (List.zipWith (fun (align, width) cell => fit align width (cell.getD i [])) layout cells)

/-- The width of every column. -/
def columnWidths (heads : List Cell) (rows : List (List Cell)) : List Nat :=
  rows.foldl (fun widths cells => List.zipWith max widths (cells.map Cell.width))
    (heads.map Cell.width)

/-- **The drawing of a table.** -/
def render (table : BoxTable) : Bytes :=
  let headings := table.columns.map (Cell.settle ·.heading)
  let footings := table.columns.map (Cell.settle ·.footing)
  let rows := table.rows.map (·.map Cell.settle)
  let widths := columnWidths headings (footings :: rows)
  let layout := List.zip (table.columns.map (·.align)) widths
  let inner := widths.foldl (· + ·) 0 + 3 * (widths.length - 1)
  rule "┌" "─" "┐" widths
    ++ barred [fit .left inner table.title]
    ++ rule "├" "┬" "┤" widths
    ++ row layout headings
    ++ rule "├" "┼" "┤" widths
    ++ rows.flatMap (row layout)
    ++ rule "├" "┼" "┤" widths
    ++ row layout footings
    ++ rule "└" "┴" "┘" widths

end BoxTable

end OnePass
