import Piste.Diagram.Canvas
import Piste.Diagram.Connection
import Piste.Diagram.Layout

/-!
# Drawing

A diagram is a canvas painted with the strokes of its labels and then of its wires, in the order of
the list of connections. Where strokes meet, the last one stays. A wire between neighbours runs in
the row of the labels and leaves their columns free; any other runs below, on risers.
-/

namespace Piste.Diagram

/-- Glyph of a riser. -/
def riserGlyph : Char := '|'

/-- Blank columns right of the last terminal. -/
def margin : Nat := 10

/-- A connection whose terminals have been found: their columns, and whether they are neighbours. -/
structure Wire where
  left : Nat
  right : Nat
  adjacent : Bool
  resistor : Bool
  deriving DecidableEq, Repr

/-- Characters written one beside the other from a column on. -/
def strokesFrom (row : Nat) (column : Int) : List Char → List Stroke
  | [] => []
  | glyph :: rest => ⟨row, column, glyph⟩ :: strokesFrom row (column + 1) rest

/-- The strokes of a label. -/
def Terminal.strokes (terminal : Terminal) : List Stroke :=
  strokesFrom labelRow terminal.labelStart terminal.id.toList

namespace Wire

/-- The glyphs of the wire, in a row of the canvas. -/
def glyphStrokes (wire : Wire) (row : Nat) : List Stroke :=
  strokesFrom row (wire.left + 1)
    (connectorGlyphs (wire.right - wire.left - 1) wire.resistor)

/-- The riser at one end of the wire. -/
def riserStrokes (column : Nat) : List Stroke :=
  [⟨riserRow, column, riserGlyph⟩, ⟨busRow, column, riserGlyph⟩]

/-- The strokes of the wire. Labels win over a wire between neighbours. -/
def strokes (terminals : List Terminal) (wire : Wire) : List Stroke :=
  if wire.adjacent then
    (wire.glyphStrokes labelRow).filter fun stroke =>
      terminals.all fun terminal => ¬ terminal.Covers stroke.column
  else riserStrokes wire.left ++ riserStrokes wire.right ++ wire.glyphStrokes busRow

end Wire

namespace Layout

/-- A terminal that a connection names, with its index. -/
def find (layout : Layout) (id : String) : Except DrawError (Nat × Terminal) :=
  match layout.get? id with
  | some found => .ok found
  | none => .error (.unknownTerminal id)

/-- The wire of a connection, which joins two different terminals of the layout. -/
def resolve (layout : Layout) (connection : Connection) : Except DrawError Wire := do
  let (i, a) ← layout.find connection.source
  let (j, b) ← layout.find connection.target
  if i = j then .error (.selfConnection connection.source)
  else .ok {
    left := min a.position b.position
    right := max a.position b.position
    adjacent := i + 1 = j ∨ j + 1 = i
    resistor := connection.resistor }

/-- The strokes of a diagram in the order in which they are painted. -/
def strokes (layout : Layout) (wires : List Wire) : List Stroke :=
  layout.terminals.flatMap Terminal.strokes ++ wires.flatMap (Wire.strokes layout.terminals)

/-- The blank canvas for the layout. -/
def canvas (layout : Layout) : Canvas :=
  Canvas.blank (layout.maxPosition + margin)

/-- The four lines of the diagram of some connections. All connections are looked up before any is
drawn. -/
def draw (layout : Layout) (connections : List Connection) : Except DrawError (List String) := do
  let wires ← connections.mapM layout.resolve
  .ok (layout.canvas.paint (layout.strokes wires)).lines

end Layout

/-- A connection set with the lines of its diagram. -/
structure RenderedSet where
  name : String
  lines : List String
  deriving DecidableEq, Repr

namespace Layout

/-- Draws one set. An error comes with the name of the set. -/
def drawSet (layout : Layout) (set : ConnectionSet) :
    Except (String × DrawError) RenderedSet :=
  match layout.draw set.connections with
  | .ok lines => .ok ⟨set.name, lines⟩
  | .error e => .error (set.name, e)

/-- Draws each set in order, up to the first that cannot be drawn. -/
def drawSets (layout : Layout) (sets : List ConnectionSet) :
    Except (String × DrawError) (List RenderedSet) :=
  sets.mapM layout.drawSet

end Layout

end Piste.Diagram
