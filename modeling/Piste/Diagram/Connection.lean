/-!
# Connections

Wires between terminals, and the glyphs that fill the gap between two columns.
-/

namespace Piste.Diagram

/-- A wire between two terminals, with or without a resistor. -/
structure Connection where
  source : String
  target : String
  resistor : Bool
  deriving DecidableEq, Repr

/-- Connections that are drawn together as one diagram. -/
structure ConnectionSet where
  name : String
  connections : List Connection
  deriving DecidableEq, Repr

/-- Why a connection cannot be drawn. -/
inductive DrawError where
  | unknownTerminal (id : String)
  | selfConnection (id : String)
  deriving DecidableEq, Repr

/-- The cause in one line. -/
def DrawError.message : DrawError → String
  | unknownTerminal id => s!"connection references unknown terminal '{id}'"
  | selfConnection id => s!"connection from '{id}' to itself"

/-- Glyph of a wire. -/
def wireGlyph : Char := '-'

/-- Glyphs of a resistor. -/
def resistorGlyphs : List Char := ['-', 'R', '-']

/-- The glyphs between two terminals with `gap` columns between them. A resistor stands in the
middle, an odd column being on its right, and takes its three columns in a narrower gap too. -/
def connectorGlyphs (gap : Nat) (resistor : Bool) : List Char :=
  if resistor then
    let padding := gap - resistorGlyphs.length
    let left := padding / 2
    List.replicate left wireGlyph ++ resistorGlyphs ++ List.replicate (padding - left) wireGlyph
  else List.replicate gap wireGlyph

end Piste.Diagram
