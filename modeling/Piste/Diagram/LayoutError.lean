import Piste.Decimal.Shortest

/-!
# Layout errors

Why terminals cannot be placed on columns.
-/

namespace Piste.Diagram

/-- Why terminals cannot be placed. -/
inductive LayoutError where
  | noTerminals
  | unknownTerminal (id : String)
  | duplicateTerminal (id : String)
  | missingDistance (left right : String)
  | invalidScale (scale : Float)
  | nonPositiveStep (left right : String) (step : Int)
  | offCanvas (id : String) (offset : Int)
  | tooWide (id : String) (column : Nat)
  | missingLabelWidth (id : String)

namespace LayoutError

/-- The cause in one line. -/
def message : LayoutError → String
  | noTerminals => "layout has no terminals"
  | unknownTerminal id => s!"terminal '{id}' is not part of the layout"
  | duplicateTerminal id => s!"terminal '{id}' appears more than once in the layout"
  | missingDistance left right => s!"no distance defined between '{left}' and '{right}'"
  | invalidScale scale =>
    "scale must be a positive finite number, got " ++ Decimal.floatText scale
  | nonPositiveStep left right step =>
    s!"'{left}' and '{right}' are {step} columns apart after scaling; terminals need at least 1"
  | offCanvas id offset => s!"terminal '{id}' would land at column {offset}, left of the canvas"
  | tooWide id column =>
    s!"terminal '{id}' would land at column {column}, past the widest supported canvas"
  | missingLabelWidth id => s!"no label width defined for terminal '{id}'"

end LayoutError

end Piste.Diagram
