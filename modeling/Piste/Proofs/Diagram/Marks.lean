import Piste.Proofs.Diagram.BusRows

/-!
# What a connection leaves in a cell

A diagram is a matter of its cells: in each of them the last connection that has a mark there is
seen. `Layout.mark?` is the mark of one connection in one cell, and `Layout.draw_eq_of_marks` says
that two lists of connections are drawn alike as soon as their last marks agree in every cell. The
labels, which come before all wires, play no part in this.

`Wire.Marks` says without strokes which cells a wire has a mark in (`Wire.isSome_strokes_iff`), and
`Layout.Joins.of_sameEnds` that connections of the same two terminals have the same wire, but for the
resistor.
-/

namespace Piste.Diagram

/-- Whether two connections join the same two terminals, in whichever direction. -/
def Connection.SameEnds (connection other : Connection) : Prop :=
  other.source = connection.source ∧ other.target = connection.target ∨
    other.source = connection.target ∧ other.target = connection.source

instance (connection other : Connection) : Decidable (connection.SameEnds other) :=
  inferInstanceAs (Decidable (_ ∨ _))

/-! ## The cells of a wire -/

namespace Wire

/-- Whether the wire has a glyph in a column. -/
def Fills (wire : Wire) (column : Nat) : Prop :=
  wire.left + 1 ≤ column ∧ column < wire.left + 1 + wire.count

/-- Whether the wire is drawn in a cell. Between neighbours it is drawn beside the labels, otherwise
below them. -/
def Marks (terminals : List Terminal) (wire : Wire) (row column : Nat) : Prop :=
  if wire.adjacent = true then
    row = labelRow ∧ wire.Fills column ∧ ¬∃ t ∈ terminals, t.Covers column
  else
    row = riserRow ∧ (column = wire.left ∨ column = wire.right) ∨
      row = busRow ∧ wire.Touches column

section Cells

variable {terminals : List Terminal} {wire : Wire} {row column : Nat}

theorem marks_iff_of_adjacent (hadjacent : wire.adjacent = true) :
    wire.Marks terminals row column ↔
      row = labelRow ∧ wire.Fills column ∧ ¬∃ t ∈ terminals, t.Covers column := by
  rw [Marks, if_pos hadjacent]

theorem marks_iff_of_bus (hbus : wire.adjacent = false) :
    wire.Marks terminals row column ↔
      row = riserRow ∧ (column = wire.left ∨ column = wire.right) ∨
        row = busRow ∧ wire.Touches column := by
  rw [Marks, if_neg (by simp [hbus])]

theorem isSome_glyphAt?_iff : (wire.glyphAt? column).isSome = true ↔ wire.Fills column := by
  unfold glyphAt? Fills
  split <;> simp_all

theorem isSome_strokes_of_adjacent (hadjacent : wire.adjacent = true) :
    ((wire.strokes terminals).findSomeRev? (Stroke.glyphAt? row column)).isSome = true ↔
      wire.Marks terminals row column := by
  rw [marks_iff_of_adjacent hadjacent]
  by_cases hrow : row = labelRow
  · subst hrow
    rw [findSomeRev?_strokes_labelRow]
    by_cases hcovered : ∃ t ∈ terminals, t.Covers column
    · simp [hcovered]
    · rw [if_pos ⟨hadjacent, hcovered⟩, isSome_glyphAt?_iff]
      simp [hcovered]
  · rw [findSomeRev?_strokes_of_adjacent hadjacent hrow]
    simp [hrow]

theorem isSome_strokes_of_bus (hbus : wire.adjacent = false) :
    ((wire.strokes terminals).findSomeRev? (Stroke.glyphAt? row column)).isSome = true ↔
      wire.Marks terminals row column := by
  rw [marks_iff_of_bus hbus]
  have hrows : row = labelRow ∨ row = riserRow ∨ row = busRow ∨ busRow < row := by
    unfold labelRow riserRow busRow
    omega
  rcases hrows with rfl | rfl | rfl | hlow
  · rw [findSomeRev?_strokes_labelRow, if_neg (by simp [hbus])]
    simp [labelRow, riserRow, busRow]
  · have hends : wire.left = column ∨ wire.right = column ↔
        column = wire.left ∨ column = wire.right := by
      rw [eq_comm, eq_comm (a := wire.right)]
    rw [findSomeRev?_strokes_riserRow hbus]
    simp [hends, riserRow, busRow]
  · rw [findSomeRev?_strokes_of_bus hbus]
    simp [riserRow, busRow]
  · rw [findSomeRev?_strokes_of_busRow_lt terminals wire hlow]
    unfold busRow at hlow
    simp [riserRow, busRow]
    omega

/-- A wire leaves a stroke exactly in the cells that it marks. -/
theorem isSome_strokes_iff :
    ((wire.strokes terminals).findSomeRev? (Stroke.glyphAt? row column)).isSome = true ↔
      wire.Marks terminals row column := by
  cases hadjacent : wire.adjacent with
  | true => exact isSome_strokes_of_adjacent hadjacent
  | false => exact isSome_strokes_of_bus hadjacent

end Cells

end Wire

/-! ## Marks -/

namespace Layout

/-- The wire of a connection that can be drawn. -/
def wire? (layout : Layout) (connection : Connection) : Option Wire :=
  (layout.resolve connection).toOption

/-- What a connection alone leaves in a cell. -/
def mark? (layout : Layout) (row column : Nat) (connection : Connection) : Option Char :=
  (layout.wire? connection).bind fun wire =>
    (wire.strokes layout.terminals).findSomeRev? (Stroke.glyphAt? row column)

/-- Every connection names two different terminals of the layout. -/
def Resolves (layout : Layout) (connections : List Connection) : Prop :=
  ∀ connection ∈ connections, ∃ wire, layout.Joins connection wire

variable {layout : Layout} {connection other : Connection} {wire : Wire} {row column : Nat}

theorem wire?_eq_some_iff : layout.wire? connection = some wire ↔ layout.Joins connection wire := by
  rw [wire?, ← resolve_eq_ok_iff]
  cases layout.resolve connection with
  | error e => simp [Except.toOption]
  | ok found => simp [Except.toOption]

/-- A connection has one wire. -/
theorem Joins.unique {wire' : Wire} (hjoins : layout.Joins connection wire)
    (hjoins' : layout.Joins connection wire') : wire = wire' :=
  Option.some.inj ((wire?_eq_some_iff.2 hjoins).symm.trans (wire?_eq_some_iff.2 hjoins'))

theorem Joins.resistor_eq (hjoins : layout.Joins connection wire) :
    wire.resistor = connection.resistor := by
  obtain ⟨_, _, _, _, _, _, _, _, _, _, _, _, hresistor⟩ := hjoins
  exact hresistor

/-- Connections with the same ends have the same wire, but for the resistor. -/
theorem Joins.of_sameEnds (hjoins : layout.Joins connection wire)
    (hends : connection.SameEnds other) :
    layout.Joins other { wire with resistor := other.resistor } := by
  obtain ⟨i, j, a, b, hi, hsource, hj, htarget, hij, hleft, hright, hadjacent, -⟩ := hjoins
  rcases hends with ⟨hs, ht⟩ | ⟨hs, ht⟩
  · exact ⟨i, j, a, b, hi, hsource.trans hs.symm, hj, htarget.trans ht.symm, hij, hleft, hright,
      hadjacent, rfl⟩
  · refine ⟨j, i, b, a, hj, htarget.trans hs.symm, hi, hsource.trans ht.symm, hij.symm, ?_, ?_, ?_,
      rfl⟩
    · rw [Nat.min_comm]
      exact hleft
    · rw [Nat.max_comm]
      exact hright
    · have hcomm : (j + 1 = i ∨ i + 1 = j) ↔ (i + 1 = j ∨ j + 1 = i) := or_comm
      simp only [hcomm]
      exact hadjacent

theorem mark?_of_joins (hjoins : layout.Joins connection wire) :
    layout.mark? row column connection =
      (wire.strokes layout.terminals).findSomeRev? (Stroke.glyphAt? row column) := by
  rw [mark?, wire?_eq_some_iff.2 hjoins, Option.bind_some]

/-- A connection has a mark exactly in the cells of its wire. -/
theorem isSome_mark?_iff :
    (layout.mark? row column connection).isSome = true ↔
      ∃ wire, layout.Joins connection wire ∧ wire.Marks layout.terminals row column := by
  cases hwire : layout.wire? connection with
  | none =>
    have hnone : ∀ wire, ¬layout.Joins connection wire := by
      intro wire hjoins
      rw [wire?_eq_some_iff.2 hjoins] at hwire
      cases hwire
    simp [mark?, hwire, hnone]
  | some wire =>
    have hjoins := wire?_eq_some_iff.1 hwire
    rw [mark?_of_joins hjoins, Wire.isSome_strokes_iff]
    constructor
    · intro hmarks
      exact ⟨wire, hjoins, hmarks⟩
    · rintro ⟨found, hfound, hmarks⟩
      rw [hjoins.unique hfound]
      exact hmarks

/-! ## Lists of connections -/

theorem Resolves.exists_wires {connections : List Connection} (h : layout.Resolves connections) :
    ∃ wires, List.Forall₂ layout.Joins connections wires :=
  Outcome.exists_forall₂_iff.2 h

/-- The last stroke of the wires in a cell is the last mark of the connections. -/
theorem findSomeRev?_wires {connections : List Connection} {wires : List Wire}
    (hwires : List.Forall₂ layout.Joins connections wires) :
    (wires.flatMap (Wire.strokes layout.terminals)).findSomeRev? (Stroke.glyphAt? row column) =
      connections.findSomeRev? (layout.mark? row column) := by
  rw [findSomeRev?_flatMap]
  induction hwires with
  | nil => rfl
  | cons hjoins _ ih => rw [findSomeRev?_cons, findSomeRev?_cons, ih, mark?_of_joins hjoins]

/-- Connections that can be drawn are drawn by their marks. -/
theorem draw_eq_of_resolves {connections : List Connection}
    (hresolves : layout.Resolves connections) :
    layout.draw connections = .ok ((List.range rowCount).map fun row =>
      rowText (layout.maxPosition + margin) fun column =>
        ((connections.findSomeRev? (layout.mark? row column)).or
          ((layout.terminals.flatMap Terminal.strokes).findSomeRev?
            (Stroke.glyphAt? row column))).getD ' ') := by
  obtain ⟨wires, hwires⟩ := hresolves.exists_wires
  rw [draw_eq_ok hwires, canvas, Canvas.lines_paint_blank]
  simp only [strokes, findSomeRev?_append, findSomeRev?_wires hwires]

/-- Two lists of connections with the same last mark in every cell are drawn alike. -/
theorem draw_eq_of_marks {connections connections' : List Connection}
    (hresolves : layout.Resolves connections) (hresolves' : layout.Resolves connections')
    (hmarks : ∀ row column, connections'.findSomeRev? (layout.mark? row column) =
      connections.findSomeRev? (layout.mark? row column)) :
    layout.draw connections' = layout.draw connections := by
  rw [draw_eq_of_resolves hresolves, draw_eq_of_resolves hresolves']
  simp only [hmarks]

/-- Connections that can be drawn give four lines. -/
theorem Resolves.exists_lines {connections : List Connection}
    (hresolves : layout.Resolves connections) :
    ∃ lines, layout.draw connections = .ok lines ∧ lines.length = rowCount := by
  have hdraw := draw_eq_of_resolves hresolves
  exact ⟨_, hdraw, length_of_draw hdraw⟩

end Layout

end Piste.Diagram
