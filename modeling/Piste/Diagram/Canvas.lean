import Piste.Text.Blank

/-!
# Canvas

A grid of characters, four rows high, that one diagram is drawn on. What is written beside the grid
is dropped.
-/

namespace Piste.Diagram

/-- Number of rows of every canvas. -/
def rowCount : Nat := 4

/-- Row of the labels and of the connectors between neighbours. -/
def labelRow : Nat := 0

/-- Row of the upper half of the risers. -/
def riserRow : Nat := 1

/-- Row of the lower half of the risers and of the bus connectors. -/
def busRow : Nat := 2

/-- A grid of characters with four rows of `width` cells. -/
structure Canvas where
  width : Nat
  rows : Vector (Vector Char width) rowCount

/-- A character and the cell it is written to, which may lie off the canvas. -/
structure Stroke where
  row : Nat
  column : Int
  glyph : Char
  deriving DecidableEq, Repr

namespace Canvas

/-- The canvas of blanks. -/
def blank (width : Nat) : Canvas where
  width
  rows := Vector.replicate rowCount (Vector.replicate width ' ')

/-- Number of rows. -/
def height (_ : Canvas) : Nat := rowCount

/-- Writes a character to a cell of the canvas. A stroke off the canvas changes nothing. -/
def put (canvas : Canvas) (stroke : Stroke) : Canvas :=
  if 0 ≤ stroke.column then
    { canvas with
      rows := ⟨canvas.rows.toArray.modify stroke.row
        (·.setIfInBounds stroke.column.toNat stroke.glyph), by simp⟩ }
  else canvas

/-- Writes characters one after another. -/
def paint (canvas : Canvas) (strokes : List Stroke) : Canvas :=
  strokes.foldl put canvas

/-- The character in a cell of the canvas. -/
def get? (canvas : Canvas) (row column : Nat) : Option Char :=
  canvas.rows[row]? >>= (·[column]?)

/-- The rows as text, without the blanks at their ends. -/
def lines (canvas : Canvas) : List String :=
  canvas.rows.toList.map fun row => String.ofList (Text.trimEnd row.toList)

end Canvas

end Piste.Diagram
