import Mathlib.Order.Interval.Finset.Nat
import Piste.Proofs.Diagram.BusRows

/-!
# A bus on its own

One connection between two terminals that are no neighbours is drawn as two risers with a connector
between their feet. The marker of a resistor takes three columns, so where the terminals stand
closer it runs over the right foot. `Layout.single_bus_of_draw` says what is seen of a bus however
far apart its ends are, and `Layout.not_forall_drawn_whole` has the smallest bus that is not seen as
others are.
-/

namespace Piste.Diagram

namespace Wire

/-- Column of the marker, if the wire is a resistor. -/
def markerColumn (wire : Wire) : Nat :=
  wire.left + 1 + (wire.count - 1) / 2

/-- What the second and the third line show of a bus: risers at both ends, a left foot, some glyph
for the right foot, and between the feet nothing but dashes and a number of markers. -/
structure SeenAs (wire : Wire) (risers bus : String) (rightFoot : Char) (markers : Nat) : Prop where
  left_riser : cellAt risers wire.left = '|'
  right_riser : cellAt risers wire.right = '|'
  left_foot : cellAt bus wire.left = '|'
  right_foot : cellAt bus wire.right = rightFoot
  between : ∀ column ∈ Finset.Ioo wire.left wire.right,
    cellAt bus column = '-' ∨ cellAt bus column = 'R'
  marked : ((Finset.Ioo wire.left wire.right).filter fun column =>
    cellAt bus column = 'R').card = markers

end Wire

/-! ## Cells of a single bus -/

section Cells

variable {wire : Wire} {column : Nat}

theorem buses_singleton (hbus : wire.adjacent = false) : buses [wire] = [wire] := by
  simp [buses, hbus]

theorem riserCell_singleton (hbus : wire.adjacent = false) :
    riserCell [wire] column = if column = wire.left ∨ column = wire.right then '|' else ' ' := by
  simp [riserCell, buses_singleton hbus]

theorem busCell_singleton (hbus : wire.adjacent = false) (htouches : wire.Touches column) :
    busCell [wire] column = (wire.glyphAt? column).getD '|' := by
  simp [busCell, buses_singleton hbus, htouches]

/-- Where the bus has a glyph this is a dash, but for the marker. -/
theorem busCell_of_glyph (hbus : wire.adjacent = false)
    (hin : wire.left + 1 ≤ column ∧ column < wire.left + 1 + wire.count) :
    busCell [wire] column =
      if wire.resistor = true ∧ column = wire.markerColumn then 'R' else '-' := by
  have htouches : wire.Touches column := Or.inr (Or.inr hin)
  have hmarker : column - (wire.left + 1) = (wire.count - 1) / 2 ↔ column = wire.markerColumn := by
    unfold Wire.markerColumn
    omega
  rw [busCell_singleton hbus htouches, Wire.glyphAt?, if_pos hin, Option.getD_some]
  simp only [hmarker]

/-- At an end without a glyph its foot is seen. -/
theorem busCell_of_foot (hbus : wire.adjacent = false)
    (hend : column = wire.left ∨ column = wire.right)
    (hout : ¬(wire.left + 1 ≤ column ∧ column < wire.left + 1 + wire.count)) :
    busCell [wire] column = '|' := by
  have htouches : wire.Touches column := hend.imp id Or.inl
  rw [busCell_singleton hbus htouches, Wire.glyphAt?, if_neg hout, Option.getD_none]

theorem busCell_between (hbus : wire.adjacent = false)
    (hcolumn : column ∈ Finset.Ioo wire.left wire.right) :
    busCell [wire] column =
      if wire.resistor = true ∧ column = wire.markerColumn then 'R' else '-' := by
  have hcount := wire.gap_le_count
  unfold Wire.gap at hcount
  rw [Finset.mem_Ioo] at hcolumn
  apply busCell_of_glyph hbus
  omega

/-- Of the columns between the ends one has the marker of a resistor, if it is there at all. -/
theorem card_markers (hbus : wire.adjacent = false) :
    ((Finset.Ioo wire.left wire.right).filter fun column => busCell [wire] column = 'R').card =
      if wire.resistor = true ∧ wire.markerColumn < wire.right then 1 else 0 := by
  have hmarker : ∀ column ∈ Finset.Ioo wire.left wire.right,
      (busCell [wire] column = 'R' ↔ wire.resistor = true ∧ column = wire.markerColumn) := by
    intro column hcolumn
    rw [busCell_between hbus hcolumn]
    split <;> simp_all
  have hleft : wire.left < wire.markerColumn := by
    unfold Wire.markerColumn
    omega
  rw [Finset.filter_congr hmarker]
  by_cases hresistor : wire.resistor = true
  · simp only [hresistor, true_and, Finset.filter_eq', Finset.mem_Ioo, hleft]
    split <;> rfl
  · simp [hresistor]

end Cells

/-! ## The lines -/

section Lines

variable {layout : Layout} {connection : Connection} {wire : Wire}

/-- Terminals that are no neighbours have a terminal between them, and so a column. -/
theorem Layout.Joins.one_le_gap (hjoins : layout.Joins connection wire)
    (hbus : wire.adjacent = false) : 1 ≤ wire.gap := by
  obtain ⟨i, j, a, b, hi, -, hj, -, hij, hleft, hright, hadjacent, -⟩ := hjoins
  have hfar : ¬(i + 1 = j ∨ j + 1 = i) := by
    rw [hbus] at hadjacent
    exact of_decide_eq_false hadjacent.symm
  have hilt := (List.getElem?_eq_some_iff.1 hi).1
  have hjlt := (List.getElem?_eq_some_iff.1 hj).1
  unfold Wire.gap
  rcases Nat.lt_or_gt_of_ne hij with hlt | hgt
  · have hbetween := List.getElem?_eq_getElem (l := layout.terminals) (i := i + 1) (by omega)
    have hfirst := position_lt hi hbetween (by omega)
    have hsecond := position_lt hbetween hj (by omega)
    omega
  · have hbetween := List.getElem?_eq_getElem (l := layout.terminals) (i := j + 1) (by omega)
    have hfirst := position_lt hj hbetween (by omega)
    have hsecond := position_lt hbetween hi (by omega)
    omega

/-- Drawn alone, a connection has its cells in the second and the third line. -/
theorem Layout.exists_lines_of_single (hjoins : layout.Joins connection wire) :
    ∃ top risers bus, layout.draw [connection] = .ok [top, risers, bus, ""] ∧
      (∀ column, cellAt risers column = riserCell [wire] column) ∧
      ∀ column, cellAt bus column = busCell [wire] column := by
  have hwires : List.Forall₂ layout.Joins [connection] [wire] := .cons hjoins .nil
  obtain ⟨top, hdraw⟩ := draw_eq_ok_lines hwires
  refine ⟨top, _, _, hdraw, ?_, ?_⟩
  · apply cellAt_rowText
    · exact fun _ => eq_space_of_isBlank_riserCell
    · exact fun _ => riserCell_of_canvas_le hwires
  · apply cellAt_rowText
    · exact fun _ => eq_space_of_isBlank_busCell
    · exact fun _ => busCell_of_canvas_le hwires

/-- All that depends on the distance between the ends are the right foot and the marker. -/
theorem Wire.SeenAs.of_cells {risers bus : String} {rightFoot : Char} {markers : Nat}
    (hbus : wire.adjacent = false)
    (hriserCells : ∀ column, cellAt risers column = riserCell [wire] column)
    (hbusCells : ∀ column, cellAt bus column = busCell [wire] column)
    (hfoot : busCell [wire] wire.right = rightFoot)
    (hmarkers :
      (if wire.resistor = true ∧ wire.markerColumn < wire.right then 1 else 0) = markers) :
    wire.SeenAs risers bus rightFoot markers := by
  constructor
  · rw [hriserCells, riserCell_singleton hbus, if_pos (Or.inl rfl)]
  · rw [hriserCells, riserCell_singleton hbus, if_pos (Or.inr rfl)]
  · rw [hbusCells]
    exact busCell_of_foot hbus (Or.inl rfl) (by omega)
  · rw [hbusCells, hfoot]
  · intro column hcolumn
    rw [hbusCells, busCell_between hbus hcolumn]
    split
    · exact Or.inr rfl
    · exact Or.inl rfl
  · simp only [hbusCells]
    rw [card_markers hbus, hmarkers]

/-- A bus is seen as it should if it is plain or has three columns between its ends. A resistor with
two columns hides its right foot behind the last dash of the marker, and with one column, the fewest
there are, behind the marker itself. -/
theorem Layout.single_bus_of_draw (hjoins : layout.Joins connection wire)
    (hbus : wire.adjacent = false) :
    1 ≤ wire.gap ∧
    ∃ top risers bus, layout.draw [connection] = .ok [top, risers, bus, ""] ∧
      (wire.resistor = false → wire.SeenAs risers bus '|' 0) ∧
      (wire.resistor = true → 3 ≤ wire.gap → wire.SeenAs risers bus '|' 1) ∧
      (wire.resistor = true → wire.gap = 2 → wire.SeenAs risers bus '-' 1) ∧
      (wire.resistor = true → wire.gap = 1 → wire.SeenAs risers bus 'R' 0) := by
  have hgap := hjoins.one_le_gap hbus
  have hright : wire.right = wire.left + 1 + wire.gap := by
    unfold Wire.gap at hgap ⊢
    omega
  have hmarker : wire.markerColumn = wire.left + 1 + (wire.count - 1) / 2 := rfl
  obtain ⟨top, risers, bus, hdraw, hriserCells, hbusCells⟩ := exists_lines_of_single hjoins
  refine ⟨hgap, top, risers, bus, hdraw, ?_, ?_, ?_, ?_⟩
  · intro hplain
    have hcount : wire.count = wire.gap := by
      apply Wire.count_eq_gap
      simp [hplain]
    apply Wire.SeenAs.of_cells hbus hriserCells hbusCells
    · exact busCell_of_foot hbus (Or.inr rfl) (by omega)
    · simp [hplain]
  · intro hresistor hwide
    have hcount := Wire.count_of_resistor hresistor
    apply Wire.SeenAs.of_cells hbus hriserCells hbusCells
    · exact busCell_of_foot hbus (Or.inr rfl) (by omega)
    · rw [if_pos ⟨hresistor, by omega⟩]
  · intro hresistor htwo
    have hcount := Wire.count_of_resistor hresistor
    apply Wire.SeenAs.of_cells hbus hriserCells hbusCells
    · rw [busCell_of_glyph hbus (by omega), if_neg (by omega)]
    · rw [if_pos ⟨hresistor, by omega⟩]
  · intro hresistor hone
    have hcount := Wire.count_of_resistor hresistor
    apply Wire.SeenAs.of_cells hbus hriserCells hbusCells
    · rw [busCell_of_glyph hbus (by omega), if_pos ⟨hresistor, by omega⟩]
    · rw [if_neg (by omega)]

/-- The resistor between the outer of three terminals side by side has its marker for a right foot,
and none between its feet. -/
theorem Layout.single_bus_of_crowded :
    ∃ top risers bus, crowded.draw [⟨"A", "C", true⟩] = .ok [top, risers, bus, ""] ∧
      (⟨1, 3, false, true⟩ : Wire).SeenAs risers bus 'R' 0 := by
  have hjoins : crowded.Joins ⟨"A", "C", true⟩ ⟨1, 3, false, true⟩ := resolve_eq_ok_iff.1 rfl
  obtain ⟨-, top, risers, bus, hdraw, -, -, -, hseen⟩ := single_bus_of_draw hjoins rfl
  exact ⟨top, risers, bus, hdraw, hseen rfl rfl⟩

/-- Not every bus has both of its feet and its marker between them. -/
theorem Layout.not_forall_drawn_whole :
    ¬∀ (layout : Layout) (connection : Connection) (wire : Wire),
      layout.Joins connection wire → wire.adjacent = false →
        ∃ top risers bus, layout.draw [connection] = .ok [top, risers, bus, ""] ∧
          wire.SeenAs risers bus '|' (if wire.resistor = true then 1 else 0) := by
  intro hwhole
  have hjoins : crowded.Joins ⟨"A", "C", true⟩ ⟨1, 3, false, true⟩ := resolve_eq_ok_iff.1 rfl
  obtain ⟨top, risers, bus, hdraw, hseen⟩ := hwhole crowded _ _ hjoins rfl
  obtain ⟨top', risers', bus', hdraw', -, hbusCells⟩ := exists_lines_of_single hjoins
  have hlines := Except.ok.inj (hdraw.symm.trans hdraw')
  have hbus : bus = bus' := by simp_all
  have hfoot : cellAt bus 3 = 'R' := by
    rw [hbus, hbusCells]
    decide
  exact absurd (hfoot.symm.trans hseen.right_foot) (by decide)

end Lines

end Piste.Diagram
