import Piste.Proofs.Diagram.Wires

/-!
# The row of the labels

The first line of a diagram holds the labels and the wires between neighbours. Labels may overlap,
may be clipped at either side, and their text may be longer or shorter than the width they claim;
wires may run past the gap that they fill. `Layout.topCell` says what is seen in a column in the
end, and `Layout.first_line_of_draw` that the first line is made of these cells.

A label is known by two extents, which begin in the same column: its span, as wide as the label
claims, which wires leave free, and its text.
-/

namespace Piste.Diagram

/-! ## Labels -/

namespace Terminal

/-- First column of the label, which may lie left of the canvas. -/
def start (terminal : Terminal) : Int :=
  (terminal.position : Int) - (terminal.labelWidth / 2 : Nat)

/-- The character that the text of the label has in a column. -/
def textAt? (terminal : Terminal) (column : Int) : Option Char :=
  if terminal.start ≤ column then terminal.id.toList[(column - terminal.start).toNat]? else none

/-- Whether a column lies in the span of the label. -/
def Spans (terminal : Terminal) (column : Int) : Prop :=
  terminal.start ≤ column ∧ column < terminal.start + terminal.labelWidth

instance (terminal : Terminal) (column : Int) : Decidable (terminal.Spans column) :=
  inferInstanceAs (Decidable (_ ∧ _))

end Terminal

/-- The columns of a label that is narrower than this, 2 ^ 62, do not wrap around. -/
def labelWidthLimit : Nat := 0x4000000000000000

/-- Numbers in the range keep their value. -/
theorem signed64_eq {n : Int} (hlow : -0x8000000000000000 ≤ n) (hhigh : n < 0x8000000000000000) :
    signed64 n = n := by
  unfold signed64
  apply Int.bmod_eq_of_le
  · omega
  · omega

section Labels

variable {layout : Layout} {terminal : Terminal}

/-- Columns are small, so no label begins where the count of 64 bits wraps. -/
theorem labelStart_eq_start (hmem : terminal ∈ layout.terminals)
    (hwidth : terminal.labelWidth < labelWidthLimit) : terminal.labelStart = terminal.start := by
  have hposition : terminal.position ≤ 4096 := layout.bounded terminal hmem
  unfold labelWidthLimit at hwidth
  have hsigned : signed64 terminal.position = terminal.position :=
    signed64_eq (by omega) (by omega)
  have hhalf : signed64 (terminal.labelWidth / 2 : Nat) = (terminal.labelWidth / 2 : Nat) :=
    signed64_eq (by omega) (by omega)
  rw [Terminal.labelStart, Terminal.start, hsigned, hhalf, signed64_eq (by omega) (by omega)]

theorem labelEnd_eq (hmem : terminal ∈ layout.terminals)
    (hwidth : terminal.labelWidth < labelWidthLimit) :
    terminal.labelEnd = terminal.start + terminal.labelWidth := by
  have hposition : terminal.position ≤ 4096 := layout.bounded terminal hmem
  rw [Terminal.labelEnd, labelStart_eq_start hmem hwidth]
  unfold labelWidthLimit at hwidth
  have hsigned : signed64 terminal.labelWidth = terminal.labelWidth :=
    signed64_eq (by omega) (by omega)
  rw [hsigned, Terminal.start, signed64_eq (by omega) (by omega)]

theorem covers_iff_spans (hmem : terminal ∈ layout.terminals)
    (hwidth : terminal.labelWidth < labelWidthLimit) (column : Int) :
    terminal.Covers column ↔ terminal.Spans column := by
  rw [Terminal.Covers, Terminal.Spans, labelStart_eq_start hmem hwidth, labelEnd_eq hmem hwidth]

/-- The text of a label stands in the row of the labels, from its first column on. -/
theorem findSomeRev?_labelStrokes (hmem : terminal ∈ layout.terminals)
    (hwidth : terminal.labelWidth < labelWidthLimit) (column : Int) :
    terminal.strokes.findSomeRev? (Stroke.glyphAt? labelRow column) = terminal.textAt? column := by
  rw [Terminal.strokes, findSomeRev?_strokesFrom, labelStart_eq_start hmem hwidth, Terminal.textAt?]
  simp only [true_and]

end Labels

/-! ## Cells of the row -/

namespace Layout

/-- Whether a column lies in the span of some label. -/
def Labelled (layout : Layout) (column : Nat) : Prop :=
  ∃ terminal ∈ layout.terminals, terminal.Spans column

instance (layout : Layout) (column : Nat) : Decidable (layout.Labelled column) :=
  inferInstanceAs (Decidable (∃ terminal ∈ layout.terminals, terminal.Spans column))

/-- What the labels alone show in a column: of several texts the last one. -/
def labelCell (layout : Layout) (column : Nat) : Char :=
  (layout.terminals.findSomeRev? fun terminal => terminal.textAt? column).getD ' '

/-- What is seen in a column of the first row. Outside the spans of the labels the last wire between
neighbours is seen, and where there is none the labels are. -/
def topCell (layout : Layout) (wires : List Wire) (column : Nat) : Char :=
  if layout.Labelled column then layout.labelCell column
  else ((wires.filter fun wire => wire.adjacent).findSomeRev? fun wire => wire.glyphAt? column).getD
    (layout.labelCell column)

variable {layout : Layout}

/-- The last stroke in a cell of the first row shows what `topCell` says. -/
theorem findSomeRev?_strokes_eq_topCell
    (hwidths : ∀ terminal ∈ layout.terminals, terminal.labelWidth < labelWidthLimit)
    (wires : List Wire) (column : Nat) :
    ((layout.strokes wires).findSomeRev? (Stroke.glyphAt? labelRow column)).getD ' ' =
      layout.topCell wires column := by
  have hlabels : (layout.terminals.flatMap Terminal.strokes).findSomeRev?
      (Stroke.glyphAt? labelRow column) =
        layout.terminals.findSomeRev? fun terminal => terminal.textAt? column := by
    rw [findSomeRev?_flatMap]
    exact findSomeRev?_congr fun terminal hmem =>
      findSomeRev?_labelStrokes hmem (hwidths terminal hmem) column
  have hcovered : (∃ terminal ∈ layout.terminals, terminal.Covers column) ↔
      layout.Labelled column :=
    exists_congr fun terminal => and_congr_right fun hmem =>
      covers_iff_spans hmem (hwidths terminal hmem) column
  rw [strokes, findSomeRev?_append, findSomeRev?_flatMap, hlabels]
  simp only [Wire.findSomeRev?_strokes_labelRow, hcovered]
  rw [topCell]
  by_cases hlabelled : layout.Labelled column
  · rw [if_pos hlabelled, findSomeRev?_eq_none, Option.none_or, labelCell]
    intro wire _
    rw [if_neg fun h => h.2 hlabelled]
  · rw [if_neg hlabelled, findSomeRev?_filter]
    simp only [hlabelled, not_false_eq_true, and_true, labelCell]
    cases wires.findSomeRev? _ <;> rfl

/-- The first line shows in each column what is seen there in the end, and is trimmed. In the span
of a label no connection is seen at all. -/
theorem first_line_of_draw {connections : List Connection} {wires : List Wire}
    (hwidths : ∀ terminal ∈ layout.terminals, terminal.labelWidth < labelWidthLimit)
    (hwires : List.Forall₂ layout.Joins connections wires) :
    (∃ lines, layout.draw connections = .ok lines ∧
      lines.head? = some (rowText (layout.maxPosition + margin) (layout.topCell wires))) ∧
    ∀ column, layout.Labelled column → layout.topCell wires column = layout.topCell [] column := by
  constructor
  · refine ⟨_, draw_eq_ok hwires, ?_⟩
    rw [canvas, Canvas.lines_paint_blank]
    simp only [rowCount, List.range_succ_eq_map, List.map_cons, List.head?_cons]
    congr 2
    funext column
    exact findSomeRev?_strokes_eq_topCell hwidths wires column
  · intro column hlabelled
    rw [topCell, topCell, if_pos hlabelled, if_pos hlabelled]

/-- Three terminals, of which the first has a label that begins left of the canvas. -/
def clipped : Layout :=
  .ofTerminals [⟨"ANODE", 5, 1⟩, ⟨"B", 1, 6⟩, ⟨"C", 1, 8⟩]
    (by decide) (by decide) (by decide) (by decide)

/-- The resistor has one column between `B` and `C` and takes three, so `C` hides its middle. -/
theorem first_line_of_clipped :
    (∃ lines, clipped.draw [⟨"ANODE", "B", false⟩, ⟨"C", "B", true⟩] = .ok lines ∧
      lines.head? = some "NODE--B-C-") ∧
    clipped.topCell [⟨1, 6, true, false⟩, ⟨6, 8, true, true⟩] 8 = 'C' := by
  have hjoins : List.Forall₂ clipped.Joins [⟨"ANODE", "B", false⟩, ⟨"C", "B", true⟩]
      [⟨1, 6, true, false⟩, ⟨6, 8, true, true⟩] :=
    .cons ⟨0, 1, _, _, rfl, rfl, rfl, rfl, by decide, rfl, rfl, rfl, rfl⟩
      (.cons ⟨2, 1, _, _, rfl, rfl, rfl, rfl, by decide, rfl, rfl, rfl, rfl⟩ .nil)
  obtain ⟨⟨lines, hdraw, hhead⟩, hlabelled⟩ := first_line_of_draw (by decide) hjoins
  refine ⟨⟨lines, hdraw, ?_⟩, ?_⟩
  · rw [hhead]
    decide
  · rw [hlabelled 8 (by decide)]
    decide

end Layout

end Piste.Diagram
