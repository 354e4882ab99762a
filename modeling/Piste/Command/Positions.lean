import Piste.Command.Render

/-!
# Printing the columns of a layout

The command that prints a table of the terminals of a layout file.
-/

namespace Piste

open Diagram Text

/-- The text with blanks before it, at least `width` characters. -/
def padLeft (width : Nat) (text : String) : String :=
  String.ofList (List.replicate (width - text.length) ' ') ++ text

/-- The text with blanks after it, at least `width` characters. -/
def padRight (width : Nat) (text : String) : String :=
  text ++ String.ofList (List.replicate (width - text.length) ' ')

namespace Diagram.Layout

/-- Number of characters of the longest id. -/
def idWidth (layout : Layout) : Nat :=
  (layout.terminals.map fun t => t.id.length).foldl max 0

/-- The line of a terminal: its id, in bold if it is the anchor, its column and its label width. -/
def tableLine (layout : Layout) (anchor : String) (terminal : Terminal) : List Span :=
  [if terminal.id = anchor then Style.bold.span (padRight layout.idWidth terminal.id)
    else padRight layout.idWidth terminal.id,
    "  " ++ padLeft 4 (toString terminal.position) ++ "  ",
    Style.dimmed.span ("w=" ++ toString terminal.labelWidth), "\n"]

/-- The table of the terminals in display order. -/
def table (layout : Layout) (anchor : String) : List Span :=
  layout.terminals.flatMap (layout.tableLine anchor)

end Diagram.Layout

namespace Command

variable {m : Type → Type} [Monad m] [Host m]

/-- Prints the columns of the terminals of a layout file. -/
def positions (path : String) : m (Except CommandError Unit) := do
  match ← loadLayoutFile path with
  | .error e => return .error e
  | .ok file =>
    match file.layout with
    | .error e => return .error (.layoutFile path e)
    | .ok layout =>
      Host.print (renderSpans (layout.table file.anchor))
      return .ok ()

end Command

end Piste
