import Piste.Proofs.Diagram.Wires

/-!
# The rows below the labels

The wires between terminals that are no neighbours, here called buses, are drawn below the labels:
two risers each, and between their feet the glyphs. Buses overwrite each other, and a resistor in a
narrow gap overwrites the right foot of its own bus. `riserCell` and `busCell` say what is seen in
the end, and `Layout.lower_lines_of_draw` that the second and the third line show it. The fourth
line is empty.
-/

namespace Piste.Diagram

/-- The wires that do not run between neighbours. -/
def buses (wires : List Wire) : List Wire :=
  wires.filter fun wire => !wire.adjacent

namespace Wire

/-- Whether the wire is drawn in a column: at one of its ends or with one of its glyphs. -/
def Touches (wire : Wire) (column : Nat) : Prop :=
  column = wire.left ∨ column = wire.right ∨
    (wire.left + 1 ≤ column ∧ column < wire.left + 1 + wire.count)

instance (wire : Wire) (column : Nat) : Decidable (wire.Touches column) :=
  inferInstanceAs (Decidable (_ ∨ _ ∨ _))

end Wire

/-- What is seen in a column of the second row: a riser at every end of a bus. -/
def riserCell (wires : List Wire) (column : Nat) : Char :=
  if ∃ wire ∈ buses wires, column = wire.left ∨ column = wire.right then '|' else ' '

/-- What is seen in a column of the third row: the last bus that touches it, by its glyph if it has
one there and by its riser if it only ends there. -/
def busCell (wires : List Wire) (column : Nat) : Char :=
  match (buses wires).findRev? fun wire => wire.Touches column with
  | some wire => (wire.glyphAt? column).getD '|'
  | none => ' '

/-! ## The cells of the two rows -/

section Cells

variable {layout : Layout} {wires : List Wire} {row column : Nat}

theorem adjacent_of_mem_buses {wire : Wire} (hmem : wire ∈ buses wires) : wire.adjacent = false := by
  simpa using (List.mem_filter.1 hmem).2

/-- Below the labels only the buses are seen. -/
theorem findSomeRev?_strokes_below (hrow : row ≠ labelRow) :
    (layout.strokes wires).findSomeRev? (Stroke.glyphAt? row column) =
      (buses wires).findSomeRev? fun wire =>
        (wire.strokes layout.terminals).findSomeRev? (Stroke.glyphAt? row column) := by
  have hlabels : (layout.terminals.flatMap Terminal.strokes).findSomeRev?
      (Stroke.glyphAt? row column) = none := by
    rw [findSomeRev?_flatMap]
    refine findSomeRev?_eq_none _ fun terminal _ => ?_
    rw [Terminal.strokes, findSomeRev?_strokesFrom, if_neg fun h => hrow h.1.symm]
  rw [Layout.strokes, findSomeRev?_append, hlabels, Option.or_none, findSomeRev?_flatMap, buses,
    findSomeRev?_filter]
  refine findSomeRev?_congr fun wire _ => ?_
  cases hadjacent : wire.adjacent with
  | false => rfl
  | true => exact Wire.findSomeRev?_strokes_of_adjacent hadjacent hrow column

theorem findSomeRev?_strokes_eq_riserCell :
    ((layout.strokes wires).findSomeRev? (Stroke.glyphAt? riserRow column)).getD ' ' =
      riserCell wires column := by
  have hbus : ∀ wire ∈ buses wires,
      (wire.strokes layout.terminals).findSomeRev? (Stroke.glyphAt? riserRow column) =
        if column = wire.left ∨ column = wire.right then some '|' else none := by
    intro wire hmem
    rw [Wire.findSomeRev?_strokes_riserRow (adjacent_of_mem_buses hmem)]
    simp only [eq_comm, riserGlyph]
  rw [findSomeRev?_strokes_below (by decide), findSomeRev?_congr hbus, findSomeRev?_const, riserCell]
  split <;> rfl

/-- A bus shows its glyph in a column, or else its foot. -/
theorem findSomeRev?_strokes_of_bus {terminals : List Terminal} {wire : Wire}
    (hadjacent : wire.adjacent = false) :
    (wire.strokes terminals).findSomeRev? (Stroke.glyphAt? busRow column) =
      if decide (wire.Touches column) = true then some ((wire.glyphAt? column).getD '|')
      else none := by
  rw [Wire.findSomeRev?_strokes_busRow hadjacent, Wire.glyphAt?]
  by_cases hglyph : wire.left + 1 ≤ column ∧ column < wire.left + 1 + wire.count
  · have htouches : wire.Touches column := Or.inr (Or.inr hglyph)
    rw [if_pos hglyph, if_pos (decide_eq_true htouches)]
    rfl
  · rw [if_neg hglyph, Option.none_or, Option.getD_none]
    by_cases hend : wire.left = column ∨ wire.right = column
    · have htouches : wire.Touches column := hend.imp Eq.symm fun h => Or.inl h.symm
      rw [if_pos hend, if_pos (decide_eq_true htouches)]
      rfl
    · have htouches : ¬wire.Touches column := by
        rintro (hleft | hright | hin)
        · exact hend (Or.inl hleft.symm)
        · exact hend (Or.inr hright.symm)
        · exact hglyph hin
      rw [if_neg hend, if_neg (by simpa using htouches)]

theorem findSomeRev?_strokes_eq_busCell :
    ((layout.strokes wires).findSomeRev? (Stroke.glyphAt? busRow column)).getD ' ' =
      busCell wires column := by
  rw [findSomeRev?_strokes_below (by decide), findSomeRev?_congr fun wire hmem =>
    findSomeRev?_strokes_of_bus (adjacent_of_mem_buses hmem), findSomeRev?_eq_map_findRev?, busCell]
  cases (buses wires).findRev? fun wire => decide (wire.Touches column) <;> rfl

theorem findSomeRev?_strokes_lowest (hrow : busRow < row) :
    (layout.strokes wires).findSomeRev? (Stroke.glyphAt? row column) = none := by
  rw [findSomeRev?_strokes_below (Nat.ne_of_gt (Nat.lt_trans (by decide) hrow))]
  exact findSomeRev?_eq_none _ fun wire _ =>
    Wire.findSomeRev?_strokes_of_busRow_lt layout.terminals wire hrow column

end Cells

/-! ## The lines -/

section Lines

variable {wires : List Wire} {column : Nat}

theorem eq_space_of_isBlank_riserCell (hblank : Text.isBlank (riserCell wires column) = true) :
    riserCell wires column = ' ' := by
  unfold riserCell at hblank ⊢
  split at hblank
  · exact absurd hblank (by decide)
  · rename_i hnone
    rw [if_neg hnone]

/-- The glyphs of a wire are no blanks. -/
theorem isBlank_glyphAt? (wire : Wire) :
    Text.isBlank ((wire.glyphAt? column).getD '|') = false := by
  rw [Wire.glyphAt?]
  split
  · rw [Option.getD_some]
    split <;> rfl
  · rfl

theorem eq_space_of_isBlank_busCell (hblank : Text.isBlank (busCell wires column) = true) :
    busCell wires column = ' ' := by
  unfold busCell at hblank ⊢
  cases hlast : (buses wires).findRev? fun wire => wire.Touches column with
  | none => rfl
  | some wire =>
    simp only [hlast, isBlank_glyphAt?] at hblank
    cases hblank

/-- A wire of the layout touches no column beyond the canvas. -/
theorem Layout.Joins.lt_of_touches {layout : Layout} {connection : Connection} {wire : Wire}
    (hjoins : layout.Joins connection wire) (htouches : wire.Touches column) :
    column < layout.maxPosition + margin := by
  have hright := hjoins.right_le_maxPosition
  have hcount := hjoins.left_add_count_le
  have hmargin : margin = 10 := rfl
  rcases htouches with rfl | rfl | hin <;> omega

variable {layout : Layout} {connections : List Connection}

/-- Beyond the canvas there is no bus to be seen. -/
theorem not_touches_of_canvas_le (hwires : List.Forall₂ layout.Joins connections wires)
    (hcolumn : layout.maxPosition + margin ≤ column) {wire : Wire} (hmem : wire ∈ buses wires) :
    ¬wire.Touches column := by
  intro htouches
  obtain ⟨connection, hjoins⟩ := Layout.exists_joins_of_mem hwires (List.mem_filter.1 hmem).1
  have := hjoins.lt_of_touches htouches
  omega

theorem riserCell_of_canvas_le (hwires : List.Forall₂ layout.Joins connections wires)
    (hcolumn : layout.maxPosition + margin ≤ column) : riserCell wires column = ' ' := by
  rw [riserCell, if_neg]
  rintro ⟨wire, hmem, hend⟩
  exact not_touches_of_canvas_le hwires hcolumn hmem (hend.imp id Or.inl)

theorem busCell_of_canvas_le (hwires : List.Forall₂ layout.Joins connections wires)
    (hcolumn : layout.maxPosition + margin ≤ column) : busCell wires column = ' ' := by
  have hnone : ((buses wires).findRev? fun wire => decide (wire.Touches column)) = none := by
    rw [List.findRev?_eq_find?_reverse, List.find?_eq_none]
    intro wire hmem
    simpa using not_touches_of_canvas_le hwires hcolumn (List.mem_reverse.1 hmem)
  rw [busCell, hnone]

/-- The lines below the labels, as rows of cells. -/
theorem Layout.draw_eq_ok_lines (hwires : List.Forall₂ layout.Joins connections wires) :
    ∃ top, layout.draw connections =
      .ok [top, rowText (layout.maxPosition + margin) (riserCell wires),
        rowText (layout.maxPosition + margin) (busCell wires), ""] := by
  refine ⟨rowText (layout.maxPosition + margin) fun column =>
    ((layout.strokes wires).findSomeRev? (Stroke.glyphAt? 0 column)).getD ' ', ?_⟩
  rw [draw_eq_ok hwires, canvas, Canvas.lines_paint_blank]
  have hriser : (fun column : Nat =>
      ((layout.strokes wires).findSomeRev? (Stroke.glyphAt? 1 column)).getD ' ') =
        riserCell wires := funext fun _ => findSomeRev?_strokes_eq_riserCell
  have hbus : (fun column : Nat =>
      ((layout.strokes wires).findSomeRev? (Stroke.glyphAt? 2 column)).getD ' ') =
        busCell wires := funext fun _ => findSomeRev?_strokes_eq_busCell
  have hlowest : (fun column : Nat =>
      ((layout.strokes wires).findSomeRev? (Stroke.glyphAt? 3 column)).getD ' ') =
        fun _ => ' ' := by
    funext column
    rw [findSomeRev?_strokes_lowest (by decide), Option.getD_none]
  rw [show List.range rowCount = [0, 1, 2, 3] from rfl]
  simp only [List.map_cons, List.map_nil, hriser, hbus, hlowest, rowText_blank]

/-- The second line shows the risers and the third the last bus in each column, both without blanks
at their ends; the fourth is empty. Connections between neighbours change none of them. -/
theorem Layout.lower_lines_of_draw (hwires : List.Forall₂ layout.Joins connections wires) :
    ∃ top risers bus, layout.draw connections = .ok [top, risers, bus, ""] ∧
      (∀ column, cellAt risers column = riserCell wires column) ∧
      risers.toList.getLast? ≠ some ' ' ∧
      (∀ column, cellAt bus column = busCell wires column) ∧
      bus.toList.getLast? ≠ some ' ' ∧
      ∀ connections' wires', List.Forall₂ layout.Joins connections' wires' →
        buses wires' = buses wires →
        ∃ top', layout.draw connections' = .ok [top', risers, bus, ""] := by
  obtain ⟨top, hdraw⟩ := draw_eq_ok_lines hwires
  refine ⟨top, _, _, hdraw, ?_, getLast?_rowText _ _, ?_, getLast?_rowText _ _, ?_⟩
  · exact cellAt_rowText (fun _ => eq_space_of_isBlank_riserCell)
      fun _ => riserCell_of_canvas_le hwires
  · exact cellAt_rowText (fun _ => eq_space_of_isBlank_busCell)
      fun _ => busCell_of_canvas_le hwires
  · intro connections' wires' hwires' hbuses
    obtain ⟨top', hdraw'⟩ := draw_eq_ok_lines hwires'
    have hrisers : riserCell wires' = riserCell wires := by
      funext column
      rw [riserCell, riserCell, hbuses]
    have hbusCells : busCell wires' = busCell wires := by
      funext column
      rw [busCell, busCell, hbuses]
    rw [hrisers, hbusCells] at hdraw'
    exact ⟨top', hdraw'⟩

/-- Three terminals side by side. -/
def Layout.crowded : Layout :=
  .ofTerminals [⟨"A", 1, 1⟩, ⟨"B", 1, 2⟩, ⟨"C", 1, 3⟩]
    (by decide) (by decide) (by decide) (by decide)

/-- The resistor overwrites the right foot of its own bus, and the wire between the neighbours is
not seen. -/
theorem Layout.lower_lines_of_crowded :
    ∃ top risers bus,
      crowded.draw [⟨"C", "A", true⟩, ⟨"A", "B", false⟩] = .ok [top, risers, bus, ""] ∧
      (List.range 5).map (cellAt risers) = " | | ".toList ∧
      (List.range 5).map (cellAt bus) = " |-R-".toList ∧
      ∃ top', crowded.draw [⟨"C", "A", true⟩] = .ok [top', risers, bus, ""] := by
  have hbus : crowded.Joins ⟨"C", "A", true⟩ ⟨1, 3, false, true⟩ :=
    ⟨2, 0, _, _, rfl, rfl, rfl, rfl, by decide, rfl, rfl, rfl, rfl⟩
  have hadjacent : crowded.Joins ⟨"A", "B", false⟩ ⟨1, 2, true, false⟩ :=
    ⟨0, 1, _, _, rfl, rfl, rfl, rfl, by decide, rfl, rfl, rfl, rfl⟩
  obtain ⟨top, risers, bus, hdraw, hrisers, -, hfeet, -, hsame⟩ :=
    lower_lines_of_draw (.cons hbus (.cons hadjacent .nil))
  refine ⟨top, risers, bus, hdraw, ?_, ?_, hsame _ _ (.cons hbus .nil) rfl⟩
  · rw [funext hrisers]
    decide
  · rw [funext hfeet]
    decide

end Lines

end Piste.Diagram
