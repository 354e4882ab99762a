import Piste.Repetition
import Piste.Diagram.Distance
import Piste.Diagram.LayoutError

/-!
# Columns from distances

One terminal, the anchor, stands at a given column. From it the others are placed by walking outward
in both directions, one scaled distance per pair of neighbours.
-/

namespace Piste.Diagram

/-- Rightmost column that a terminal may stand at. -/
def maxColumn : Nat := 4096

/-- Column of each terminal. -/
abbrev Positions := Table String Nat

/-- The terminal that the walk starts from, and its column. -/
structure Anchor where
  terminal : String
  column : Nat

namespace Positions

/-- Columns between two neighbours, which is at least one. -/
def stepBetween (distances : DistanceTable) (scale : Float) (left right : String) :
    Except LayoutError Nat :=
  match distances.get? left right with
  | none => .error (.missingDistance left right)
  | some mm =>
    let step := scaledStep mm scale
    if step < 1 then .error (.nonPositiveStep left right step) else .ok step.toNat

/-- Columns of the terminals left of one at `column`, from the nearest outward. -/
def walkLeft (distances : DistanceTable) (scale : Float) (right : String) (column : Nat) :
    List String → Except LayoutError (List (String × Nat))
  | [] => .ok []
  | left :: rest => do
    let step ← stepBetween distances scale left right
    if column < step then
      .error (.offCanvas left ((column : Int) - step))
    else
      let placed ← walkLeft distances scale left (column - step) rest
      .ok ((left, column - step) :: placed)

/-- Columns of the terminals right of one at `column`, from the nearest outward. -/
def walkRight (distances : DistanceTable) (scale : Float) (left : String) (column : Nat) :
    List String → Except LayoutError (List (String × Nat))
  | [] => .ok []
  | right :: rest => do
    let step ← stepBetween distances scale left right
    if maxColumn < column + step then
      .error (.tooWide right (column + step))
    else
      let placed ← walkRight distances scale right (column + step) rest
      .ok ((right, column + step) :: placed)

/-- Places the terminals around the anchor, which stands between `before` and `after`. -/
def outward (distances : DistanceTable) (scale : Float) (anchor : Anchor)
    (before after : List String) : Except LayoutError Positions := do
  let left ← walkLeft distances scale anchor.terminal anchor.column before.reverse
  let right ← walkRight distances scale anchor.terminal anchor.column after
  .ok (Table.ofList (left.reverse ++ (anchor.terminal, anchor.column) :: right))

/-- Gives every terminal its column. The terminals are listed from left to right. -/
def solve (terminals : List String) (distances : DistanceTable) (scale : Float)
    (anchor : Anchor) : Except LayoutError Positions :=
  if terminals = [] then .error .noTerminals
  else if !scale.isFinite || scale ≤ 0 then .error (.invalidScale scale)
  else match firstRepeat? [] terminals with
    | some id => .error (.duplicateTerminal id)
    | none =>
      match terminals.dropWhile (· ≠ anchor.terminal) with
      | [] => .error (.unknownTerminal anchor.terminal)
      | _ :: after =>
        if maxColumn < anchor.column then .error (.tooWide anchor.terminal anchor.column)
        else outward distances scale anchor (terminals.takeWhile (· ≠ anchor.terminal)) after

end Positions

end Piste.Diagram
