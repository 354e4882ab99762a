import Piste.Table
import Piste.Decimal.Binary

/-!
# Physical distances

Distances between neighbouring terminals in millimetres, and their scaling to whole columns.
-/

namespace Piste.Diagram

open Piste.Decimal

/-- Millimetres between two terminals, stored under the pair as it was entered. -/
structure DistanceTable where
  entries : Table (String × String) Float

namespace DistanceTable

/-- The table without distances. -/
def empty : DistanceTable := ⟨∅⟩

/-- Enters a distance, in place of an earlier one for the same pair in the same order. -/
def insert (table : DistanceTable) (left right : String) (mm : Float) : DistanceTable :=
  ⟨table.entries.insert (left, right) mm⟩

/-- The distance between two terminals: the one entered for the pair in this order, or else the one
entered for the pair the other way round. -/
def get? (table : DistanceTable) (left right : String) : Option Float :=
  table.entries.get? (left, right) <|> table.entries.get? (right, left)

/-- Number of pairs, the two orders of a pair counted apart. -/
def size (table : DistanceTable) : Nat :=
  table.entries.size

/-- Enters distances one after another. -/
def insertAll (table : DistanceTable) (distances : List (String × String × Float)) :
    DistanceTable :=
  distances.foldl (fun table (left, right, mm) => table.insert left right mm) table

/-- The table of a list of distances, entered in order. -/
def ofList (distances : List (String × String × Float)) : DistanceTable :=
  empty.insertAll distances

end DistanceTable

/-- Whole columns for `mm` millimetres at `scale` columns per millimetre. The product is rounded to
the nearest whole number, a half to the even neighbour, and kept within 64 signed bits. -/
def scaledStep (mm scale : Float) : Int :=
  (Binary.ofFloat (mm * scale)).toInt64

theorem leastInt64_le_scaledStep (mm scale : Float) : leastInt64 ≤ scaledStep mm scale :=
  Binary.leastInt64_le_toInt64 _

theorem scaledStep_le_greatestInt64 (mm scale : Float) : scaledStep mm scale ≤ greatestInt64 :=
  Binary.toInt64_le_greatestInt64 _

end Piste.Diagram
