import Piste.Proofs.Diagram.LabelRow

/-!
# Clipping

A stroke that lies off the canvas is dropped (`Canvas.put_of_not_within`), any other is seen in its
cell afterwards (`Canvas.get?_put_of_within`).

The strokes of a wire lie between its ends, or up to two columns past the right one where a resistor
has too little room (`Wire.bounds_of_mem_strokes`). The margin right of the last terminal is wider
than that. So no wire is ever clipped, and what is dropped of a diagram are characters of labels:
`Layout.wires_within_canvas`.
-/

namespace Piste.Diagram

/-! ## What the canvas takes and what it drops -/

/-- Whether a stroke meets a cell of a canvas of some width. -/
def Stroke.Within (stroke : Stroke) (width : Nat) : Prop :=
  stroke.row < rowCount ∧ 0 ≤ stroke.column ∧ stroke.column < width

instance (stroke : Stroke) (width : Nat) : Decidable (stroke.Within width) :=
  inferInstanceAs (Decidable (_ ∧ _))

namespace Canvas

variable {canvas : Canvas} {stroke : Stroke}

/-- A stroke on the canvas is seen in its cell. -/
theorem get?_put_of_within (h : stroke.Within canvas.width) :
    (canvas.put stroke).get? stroke.row stroke.column.toNat = some stroke.glyph := by
  obtain ⟨hrow, hsign, hcolumn⟩ := h
  have hcell : ((stroke.column.toNat : Nat) : Int) = stroke.column := Int.toNat_of_nonneg hsign
  rw [get?_put hrow (by omega), Stroke.glyphAt?, hcell, if_pos ⟨rfl, rfl⟩, Option.some_or]

/-- A stroke off the canvas is dropped. -/
theorem put_of_not_within (h : ¬stroke.Within canvas.width) : canvas.put stroke = canvas := by
  obtain ⟨width, rows⟩ := canvas
  rw [put]
  split
  · rename_i hsign
    have hrows : rows.toArray.modify stroke.row
        (·.setIfInBounds stroke.column.toNat stroke.glyph) = rows.toArray := by
      refine Array.ext (by simp) fun i hi _ => ?_
      rw [Array.getElem_modify]
      split
      · rename_i hrow
        -- The row is one of the canvas, so it is the column that lies off it.
        have hcolumn : width ≤ stroke.column.toNat := by
          have hlt : stroke.row < rowCount := by simpa [hrow] using hi
          by_contra hin
          exact h ⟨hlt, hsign, by simp only; omega⟩
        exact Vector.setIfInBounds_eq_of_size_le hcolumn
      · rfl
    simp only [hrows]
  · rfl

end Canvas

/-! ## Where the strokes of a wire lie -/

section Bounds

variable {stroke : Stroke}

/-- Characters side by side stand in one row, each in a column of its own. -/
theorem bounds_of_mem_strokesFrom {row : Nat} {column : Int} {cs : List Char}
    (hmem : stroke ∈ strokesFrom row column cs) :
    stroke.row = row ∧ column ≤ stroke.column ∧ stroke.column < column + cs.length := by
  induction cs generalizing column with
  | nil => cases hmem
  | cons c cs ih =>
    rw [List.length_cons]
    rcases List.mem_cons.1 hmem with rfl | hrest
    · exact ⟨rfl, Int.le_refl _, by simp only; omega⟩
    · obtain ⟨hrow, hfirst, hlast⟩ := ih hrest
      exact ⟨hrow, by omega, by omega⟩

theorem length_connectorGlyphs (gap : Nat) (resistor : Bool) :
    (connectorGlyphs gap resistor).length = glyphCount gap resistor := by
  unfold connectorGlyphs glyphCount
  split
  · simp only [List.length_append, List.length_replicate, resistorGlyphs, List.length_cons,
      List.length_nil]
    omega
  · exact List.length_replicate

namespace Wire

variable {wire : Wire} {terminals : List Terminal}

theorem bounds_of_mem_glyphStrokes {row : Nat} (hmem : stroke ∈ wire.glyphStrokes row) :
    stroke.row = row ∧ (wire.left : Int) < stroke.column ∧
      stroke.column ≤ wire.left + wire.count := by
  obtain ⟨hrow, hfirst, hlast⟩ := bounds_of_mem_strokesFrom hmem
  rw [length_connectorGlyphs, ← count] at hlast
  exact ⟨hrow, by omega, by omega⟩

theorem bounds_of_mem_riserStrokes {column : Nat} (hmem : stroke ∈ riserStrokes column) :
    stroke.row < rowCount ∧ stroke.column = column := by
  simp only [riserStrokes, List.mem_cons, List.not_mem_nil, or_false] at hmem
  rcases hmem with rfl | rfl
  · exact ⟨(by decide : riserRow < rowCount), rfl⟩
  · exact ⟨(by decide : busRow < rowCount), rfl⟩

/-- A wire is drawn no further to the right than its right end or its last glyph. -/
theorem bounds_of_mem_strokes (hmem : stroke ∈ wire.strokes terminals) :
    stroke.row < rowCount ∧ 0 ≤ stroke.column ∧
      (stroke.column ≤ wire.right ∨ stroke.column ≤ wire.left + wire.count) := by
  rw [strokes] at hmem
  split at hmem
  · obtain ⟨hrow, hfirst, hlast⟩ := bounds_of_mem_glyphStrokes (List.mem_of_mem_filter hmem)
    exact ⟨hrow ▸ (by decide : labelRow < rowCount), by omega, Or.inr hlast⟩
  · rcases List.mem_append.1 hmem with hends | hglyph
    · rcases List.mem_append.1 hends with hleft | hright
      · obtain ⟨hrow, hcolumn⟩ := bounds_of_mem_riserStrokes hleft
        exact ⟨hrow, by omega, Or.inr (by omega)⟩
      · obtain ⟨hrow, hcolumn⟩ := bounds_of_mem_riserStrokes hright
        exact ⟨hrow, by omega, Or.inl (by omega)⟩
    · obtain ⟨hrow, hfirst, hlast⟩ := bounds_of_mem_glyphStrokes hglyph
      exact ⟨hrow ▸ (by decide : busRow < rowCount), by omega, Or.inr hlast⟩

end Wire

end Bounds

/-! ## Diagrams -/

namespace Layout

variable {layout : Layout}

/-- The margin has room for all that a wire may need right of the last terminal. -/
theorem Joins.within_of_mem_strokes {connection : Connection} {wire : Wire} {stroke : Stroke}
    (hjoins : layout.Joins connection wire) (hmem : stroke ∈ wire.strokes layout.terminals) :
    stroke.Within (layout.maxPosition + margin) := by
  obtain ⟨hrow, hsign, hcolumn⟩ := Wire.bounds_of_mem_strokes hmem
  have hcount := hjoins.left_add_count_le
  have hlast := hjoins.right_le_maxPosition
  refine ⟨hrow, hsign, ?_⟩
  unfold margin
  omega

/-- Between the ends of a wire there is a number of columns, which may be none, and each of its
strokes is seen in its cell, whatever has been painted before. The strokes of a diagram that are
dropped are characters of labels. -/
theorem wires_within_canvas {connections : List Connection} {wires : List Wire}
    (hwires : connections.mapM layout.resolve = .ok wires) :
    (∀ wire ∈ wires, wire.left < wire.right ∧ wire.left + 1 + wire.gap = wire.right ∧
      ∀ stroke ∈ wire.strokes layout.terminals, stroke.Within (layout.maxPosition + margin) ∧
        ∀ before, ((layout.canvas.paint before).put stroke).get? stroke.row
          stroke.column.toNat = some stroke.glyph) ∧
    ∀ stroke ∈ layout.strokes wires, ¬stroke.Within (layout.maxPosition + margin) →
      (∃ terminal ∈ layout.terminals, stroke ∈ terminal.strokes) ∧
        ∀ before, (layout.canvas.paint before).put stroke = layout.canvas.paint before := by
  have hwidth : ∀ before,
      (layout.canvas.paint before).width = layout.maxPosition + margin := by
    intro before
    rw [Canvas.width_paint, canvas, Canvas.width_blank]
  have hjoins : List.Forall₂ layout.Joins connections wires :=
    (Outcome.mapM_eq_ok_iff.1 hwires).imp fun _ _ hresolve => resolve_eq_ok_iff.1 hresolve
  constructor
  · intro wire hmem
    obtain ⟨connection, hjoin⟩ := exists_joins_of_mem hjoins hmem
    have hlt := hjoin.left_lt_right
    have hgap : wire.left + 1 + wire.gap = wire.right := by
      unfold Wire.gap
      omega
    refine ⟨hlt, hgap, fun stroke hstroke => ?_⟩
    have hwithin := hjoin.within_of_mem_strokes hstroke
    exact ⟨hwithin, fun before => Canvas.get?_put_of_within (by rwa [hwidth])⟩
  · intro stroke hstroke hout
    refine ⟨?_, fun before => Canvas.put_of_not_within (by rwa [hwidth])⟩
    rcases List.mem_append.1 hstroke with hlabel | hwire
    · exact List.mem_flatMap.1 hlabel
    · obtain ⟨wire, hmem, hwire⟩ := List.mem_flatMap.1 hwire
      obtain ⟨connection, hjoin⟩ := exists_joins_of_mem hjoins hmem
      exact absurd (hjoin.within_of_mem_strokes hwire) hout

/-- The resistor runs past the last terminal and is seen there; the first label begins left of the
canvas and loses its first character. -/
theorem wires_within_clipped :
    [⟨"C", "B", true⟩].mapM clipped.resolve = .ok [⟨6, 8, true, true⟩] ∧
    (∀ before, ((clipped.canvas.paint before).put ⟨labelRow, 9, '-'⟩).get? labelRow 9 = some '-') ∧
    ∀ before, (clipped.canvas.paint before).put ⟨labelRow, -1, 'A'⟩ =
      clipped.canvas.paint before := by
  have hwires : [⟨"C", "B", true⟩].mapM clipped.resolve = .ok [⟨6, 8, true, true⟩] := rfl
  obtain ⟨hseen, hdropped⟩ := wires_within_canvas hwires
  obtain ⟨-, -, hstrokes⟩ := hseen _ (List.mem_singleton.2 rfl)
  exact ⟨hwires, (hstrokes ⟨labelRow, 9, '-'⟩ (by decide)).2,
    (hdropped ⟨labelRow, -1, 'A'⟩ (by decide) (by decide)).2⟩

end Layout

end Piste.Diagram
