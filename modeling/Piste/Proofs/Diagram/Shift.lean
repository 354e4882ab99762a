import Piste.Proofs.Diagram.Clipping
import Piste.Proofs.LayoutFile.Columns

/-!
# Shifting a diagram

A column more for the anchor is a column more for every terminal, every wire and every stroke, so
the picture as a whole moves to the right. `Positions.Placement.shift` is this for columns,
`Layout.strokes_shift` for strokes and `rowText_shift` for a line of text, where the only thing to
see is that lines are trimmed at their ends and that empty lines stay empty.
`LayoutFile.draw_shiftCenter` puts them together.

Labels must not begin left of the canvas, since what is clipped there would come into view.
-/

namespace Piste

/-! ## Lines -/

/-- A line with blanks before it. An empty line stays empty. -/
def indent (k : Nat) (line : String) : String :=
  if line = "" then "" else String.ofList (List.replicate k ' ') ++ line

namespace Text

/-- Blanks before a text survive its trimming, unless nothing else does. -/
theorem trimEnd_replicate_append (k : Nat) (cs : List Char) :
    trimEnd (List.replicate k ' ' ++ cs) =
      if trimEnd cs = [] then [] else List.replicate k ' ' ++ trimEnd cs := by
  by_cases hnil : trimEnd cs = []
  · rw [if_pos hnil, trimEnd_eq_nil_iff]
    intro c hc
    rcases List.mem_append.1 hc with hspace | hrest
    · rw [List.eq_of_mem_replicate hspace]
      decide
    · exact trimEnd_eq_nil_iff.1 hnil c hrest
  · have hdrop : cs.reverse.dropWhile isBlank ≠ [] := by
      intro h
      exact hnil (by rw [trimEnd, h, List.reverse_nil])
    rw [if_neg hnil, trimEnd, List.reverse_append, List.dropWhile_append,
      if_neg (by simpa using hdrop), List.reverse_append, List.reverse_reverse, trimEnd]

end Text

namespace Diagram

/-- Cells that are moved to the right, with blanks in the columns left free, give the indented
line. -/
theorem rowText_shift {width k : Nat} {cell shifted : Nat → Char}
    (hleft : ∀ column < k, shifted column = ' ')
    (hright : ∀ column, shifted (column + k) = cell column) :
    rowText (width + k) shifted = indent k (rowText width cell) := by
  have hcells : (List.range (width + k)).map shifted =
      List.replicate k ' ' ++ (List.range width).map cell := by
    rw [Nat.add_comm, List.range_add, List.map_append, List.map_map]
    congr 1
    · rw [List.map_congr_left fun column hcolumn => hleft column (List.mem_range.1 hcolumn),
        List.map_const', List.length_range]
    · refine List.map_congr_left fun column _ => ?_
      rw [Function.comp_apply, Nat.add_comm, hright]
  rw [rowText, hcells, Text.trimEnd_replicate_append, rowText, indent]
  by_cases hnil : Text.trimEnd ((List.range width).map cell) = []
  · rw [if_pos hnil, hnil, String.ofList_nil, if_pos rfl]
  · rw [if_neg hnil, String.ofList_append, if_neg]
    intro hempty
    exact hnil (String.ofList_inj.1 hempty)

/-! ## Terminals, wires and strokes -/

/-- The terminal some columns further right. -/
def Terminal.shift (k : Nat) (terminal : Terminal) : Terminal :=
  { terminal with position := terminal.position + k }

/-- The wire some columns further right. -/
def Wire.shift (k : Nat) (wire : Wire) : Wire :=
  { wire with left := wire.left + k, right := wire.right + k }

/-- The stroke some columns further right. -/
def Stroke.shift (k : Nat) (stroke : Stroke) : Stroke :=
  { stroke with column := stroke.column + k }

theorem Stroke.glyphAt?_shift (k row : Nat) (column : Int) (stroke : Stroke) :
    (stroke.shift k).glyphAt? row (column + k) = stroke.glyphAt? row column := by
  simp [glyphAt?, shift]

theorem strokesFrom_shift (k row : Nat) (column : Int) (cs : List Char) :
    strokesFrom row (column + k) cs = (strokesFrom row column cs).map (Stroke.shift k) := by
  induction cs generalizing column with
  | nil => rfl
  | cons c cs ih =>
    have hnext : column + k + 1 = column + 1 + k := by omega
    rw [strokesFrom, strokesFrom, List.map_cons, hnext, ih]
    rfl

/-- The last stroke in a cell moves with the cell. -/
theorem findSomeRev?_map_shift (k row : Nat) (column : Int) (strokes : List Stroke) :
    (strokes.map (Stroke.shift k)).findSomeRev? (Stroke.glyphAt? row (column + k)) =
      strokes.findSomeRev? (Stroke.glyphAt? row column) := by
  induction strokes with
  | nil => rfl
  | cons stroke strokes ih =>
    rw [List.map_cons, findSomeRev?_cons, findSomeRev?_cons, ih, Stroke.glyphAt?_shift]

namespace Wire

theorem glyphStrokes_shift (k row : Nat) (wire : Wire) :
    (wire.shift k).glyphStrokes row = (wire.glyphStrokes row).map (Stroke.shift k) := by
  have hgap : wire.right + k - (wire.left + k) - 1 = wire.right - wire.left - 1 := by omega
  have hcolumn : ((wire.left + k : Nat) : Int) + 1 = wire.left + 1 + k := by omega
  rw [glyphStrokes, glyphStrokes, ← strokesFrom_shift]
  simp only [shift, hgap, hcolumn]

theorem riserStrokes_shift (k column : Nat) :
    riserStrokes (column + k) = (riserStrokes column).map (Stroke.shift k) := by
  simp [riserStrokes, Stroke.shift]

end Wire

/-! ## Layouts -/

namespace Layout

section Shifting

variable {layout shifted : Layout} {k : Nat}
  (hshift : shifted.terminals = layout.terminals.map (Terminal.shift k))
  (hwidths : ∀ terminal ∈ layout.terminals, terminal.labelWidth < labelWidthLimit)

include hshift

theorem maxPosition_shift : shifted.maxPosition = layout.maxPosition + k := by
  simp only [maxPosition, hshift, List.getLast_map, Terminal.shift]

/-- A wire moves with the terminals that it joins. -/
theorem Joins.shift {connection : Connection} {wire : Wire} (h : layout.Joins connection wire) :
    shifted.Joins connection (wire.shift k) := by
  obtain ⟨i, j, a, b, hi, hsource, hj, htarget, hij, hleft, hright, hadjacent, hresistor⟩ := h
  refine ⟨i, j, a.shift k, b.shift k, ?_, hsource, ?_, htarget, hij, ?_, ?_, hadjacent, hresistor⟩
  · rw [hshift, List.getElem?_map, hi, Option.map_some]
  · rw [hshift, List.getElem?_map, hj, Option.map_some]
  · simp only [Wire.shift, Terminal.shift, hleft]
    omega
  · simp only [Wire.shift, Terminal.shift, hright]
    omega

include hwidths

theorem labelStart_shift {terminal : Terminal} (hmem : terminal ∈ layout.terminals) :
    (terminal.shift k).labelStart = terminal.labelStart + k := by
  have hmem' : terminal.shift k ∈ shifted.terminals := hshift ▸ List.mem_map_of_mem hmem
  rw [labelStart_eq_start hmem (hwidths terminal hmem),
    labelStart_eq_start hmem' (hwidths terminal hmem)]
  simp only [Terminal.start, Terminal.shift]
  omega

theorem labelEnd_shift {terminal : Terminal} (hmem : terminal ∈ layout.terminals) :
    (terminal.shift k).labelEnd = terminal.labelEnd + k := by
  have hmem' : terminal.shift k ∈ shifted.terminals := hshift ▸ List.mem_map_of_mem hmem
  rw [labelEnd_eq hmem (hwidths terminal hmem), labelEnd_eq hmem' (hwidths terminal hmem)]
  simp only [Terminal.start, Terminal.shift]
  omega

theorem covers_shift {terminal : Terminal} (hmem : terminal ∈ layout.terminals) (column : Int) :
    (terminal.shift k).Covers (column + k) ↔ terminal.Covers column := by
  rw [Terminal.Covers, Terminal.Covers, labelStart_shift hshift hwidths hmem,
    labelEnd_shift hshift hwidths hmem]
  omega

theorem terminalStrokes_shift {terminal : Terminal} (hmem : terminal ∈ layout.terminals) :
    (terminal.shift k).strokes = terminal.strokes.map (Stroke.shift k) := by
  rw [Terminal.strokes, Terminal.strokes, labelStart_shift hshift hwidths hmem, strokesFrom_shift]
  rfl

theorem wireStrokes_shift (wire : Wire) :
    (wire.shift k).strokes shifted.terminals =
      (wire.strokes layout.terminals).map (Stroke.shift k) := by
  have hsame : (wire.shift k).adjacent = wire.adjacent := rfl
  rw [Wire.strokes, Wire.strokes, hsame]
  by_cases hadjacent : wire.adjacent = true
  · have hfree : ∀ stroke : Stroke,
        (shifted.terminals.all fun terminal => ¬terminal.Covers (stroke.shift k).column) =
          layout.terminals.all fun terminal => ¬terminal.Covers stroke.column := by
      intro stroke
      rw [Bool.eq_iff_iff, hshift]
      simp only [List.all_eq_true, List.forall_mem_map, decide_eq_true_eq]
      exact forall₂_congr fun terminal hmem => not_congr (covers_shift hshift hwidths hmem _)
    rw [if_pos hadjacent, if_pos hadjacent, Wire.glyphStrokes_shift, List.filter_map]
    simp only [Function.comp_def, hfree]
  · rw [if_neg hadjacent, if_neg hadjacent, Wire.glyphStrokes_shift]
    simp only [Wire.shift, Wire.riserStrokes_shift, List.map_append]

/-- All strokes of a diagram move with its terminals. -/
theorem strokes_shift (wires : List Wire) :
    shifted.strokes (wires.map (Wire.shift k)) = (layout.strokes wires).map (Stroke.shift k) := by
  rw [strokes, strokes, List.map_append, List.map_flatMap, List.map_flatMap, List.flatMap_map]
  congr 1
  · rw [hshift, List.flatMap_map]
    exact List.flatMap_congr fun terminal hmem => terminalStrokes_shift hshift hwidths hmem
  · exact List.flatMap_congr fun wire _ => wireStrokes_shift hshift hwidths wire

omit hshift hwidths in
/-- Where no label begins left of the canvas, no stroke lies there. -/
theorem column_nonneg_of_mem_strokes {wires : List Wire} {stroke : Stroke}
    (hstart : ∀ terminal ∈ layout.terminals, 0 ≤ terminal.labelStart)
    (hmem : stroke ∈ layout.strokes wires) : 0 ≤ stroke.column := by
  rcases List.mem_append.1 hmem with hlabel | hwire
  · obtain ⟨terminal, hterminal, hstroke⟩ := List.mem_flatMap.1 hlabel
    exact Int.le_trans (hstart terminal hterminal) (bounds_of_mem_strokesFrom hstroke).2.1
  · obtain ⟨wire, -, hstroke⟩ := List.mem_flatMap.1 hwire
    exact (Wire.bounds_of_mem_strokes hstroke).2.1

/-- The picture moves as a whole: each line is indented. -/
theorem draw_shift (hstart : ∀ terminal ∈ layout.terminals, 0 ≤ terminal.labelStart)
    {connections : List Connection} {wires : List Wire}
    (hwires : List.Forall₂ layout.Joins connections wires) :
    ∃ lines, layout.draw connections = .ok lines ∧ lines.length = rowCount ∧
      shifted.draw connections = .ok (lines.map (indent k)) := by
  have hwires' : List.Forall₂ shifted.Joins connections (wires.map (Wire.shift k)) :=
    List.forall₂_map_right_iff.2 (hwires.imp fun _ _ hjoins => hjoins.shift hshift)
  refine ⟨_, draw_eq_ok hwires, length_of_draw (draw_eq_ok hwires), ?_⟩
  rw [draw_eq_ok hwires', canvas, canvas, Canvas.lines_paint_blank, Canvas.lines_paint_blank,
    List.map_map]
  refine congrArg Except.ok (List.map_congr_left fun row _ => ?_)
  rw [Function.comp_apply, maxPosition_shift hshift, Nat.add_right_comm,
    strokes_shift hshift hwidths]
  refine rowText_shift ?_ ?_
  · intro column hcolumn
    rw [findSomeRev?_eq_none, Option.getD_none]
    intro stroke hmem
    obtain ⟨original, horiginal, rfl⟩ := List.mem_map.1 hmem
    have := column_nonneg_of_mem_strokes hstart horiginal
    rw [Stroke.glyphAt?, if_neg]
    simp only [Stroke.shift]
    omega
  · intro column
    rw [Int.natCast_add, findSomeRev?_map_shift]

end Shifting

end Layout

/-! ## Columns -/

/-- A placement can be moved to the right as long as it stays in bounds. -/
theorem Positions.Placement.shift {terminals : List String} {distances : DistanceTable}
    {scale : Float} {anchor : Anchor} {entries : List (String × Nat)} {k : Nat}
    (h : Placement terminals distances scale anchor entries)
    (hfit : ∀ entry ∈ entries, entry.2 + k ≤ maxColumn) :
    Placement terminals distances scale ⟨anchor.terminal, anchor.column + k⟩
      (entries.map fun entry => (entry.1, entry.2 + k)) := by
  obtain ⟨rfl, hdistinct, hfinite, hpos, hanchor, hspaced, -⟩ := h
  refine ⟨by simp [Function.comp_def], hdistinct, hfinite, hpos, ?_, ?_, ?_⟩
  · exact List.mem_map.2 ⟨_, hanchor, rfl⟩
  · refine (List.isChain_map _).2 (hspaced.imp ?_)
    rintro left right ⟨mm, hmm, hstep, hgap⟩
    refine ⟨mm, hmm, hstep, ?_⟩
    simp only
    omega
  · intro entry hentry
    obtain ⟨original, horiginal, rfl⟩ := List.mem_map.1 hentry
    exact hfit original horiginal

end Diagram

namespace LayoutFile

open Diagram

/-- The file with its anchor some columns further right. -/
def shiftCenter (k : Nat) (file : LayoutFile) : LayoutFile :=
  { file with center := file.center + k }

/-- A layout moves with the column of the anchor, if that leaves room on the right. -/
theorem layout_shiftCenter {file : LayoutFile} {layout : Layout} {k : Nat}
    (hlayout : file.layout = .ok layout) (hfit : layout.maxPosition + k ≤ maxColumn) :
    ∃ shifted, (file.shiftCenter k).layout = .ok shifted ∧
      shifted.terminals = layout.terminals.map (Terminal.shift k) := by
  obtain ⟨entries, hplaces, hterminals⟩ := exists_places_of_layout hlayout
  have hbound : ∀ entry ∈ entries, entry.2 + k ≤ maxColumn := by
    intro entry hentry
    have hmem : ⟨entry.1, file.labelWidth entry.1, entry.2⟩ ∈ layout.terminals := by
      rw [hterminals]
      exact List.mem_map.2 ⟨entry, hentry, rfl⟩
    have hposition := Layout.position_le_maxPosition hmem
    exact Nat.le_trans (Nat.add_le_add_right hposition k) hfit
  have hshifted : (file.shiftCenter k).Places (entries.map fun entry => (entry.1, entry.2 + k)) :=
    hplaces.shift hbound
  obtain ⟨shifted, hlayout', hterminals'⟩ := hshifted.exists_layout
  refine ⟨shifted, hlayout', ?_⟩
  rw [hterminals', hterminals, Layout.terminalsOf, Layout.terminalsOf, List.map_map, List.map_map]
  rfl

/-- With the anchor further right the whole diagram is further right: every terminal by as many
columns, and every line that is not empty. No label may be clipped at the left. -/
theorem draw_shiftCenter {file : LayoutFile} {layout : Layout} {k : Nat}
    (hlayout : file.layout = .ok layout)
    (hwidths : ∀ terminal ∈ layout.terminals, terminal.labelWidth < labelWidthLimit)
    (hstart : ∀ terminal ∈ layout.terminals, 0 ≤ terminal.labelStart)
    (hfit : layout.maxPosition + k ≤ maxColumn) :
    ∃ shifted, (file.shiftCenter k).layout = .ok shifted ∧
      shifted.terminals = layout.terminals.map (Terminal.shift k) ∧
      ∀ connections wires, List.Forall₂ layout.Joins connections wires →
        ∃ lines, layout.draw connections = .ok lines ∧ lines.length = rowCount ∧
          shifted.draw connections = .ok (lines.map (indent k)) := by
  obtain ⟨shifted, hshifted, hterminals⟩ := layout_shiftCenter hlayout hfit
  exact ⟨shifted, hshifted, hterminals, fun _ _ hwires =>
    Layout.draw_shift hterminals hwidths hstart hwires⟩

/-- Three terminals. The label of the last one is wider than it claims and clipped at the right. -/
def tight : LayoutFile where
  terminals := ["A", "B", "CONNECTORBLOCK"]
  anchor := "B"
  center := 4
  scale := 1.0
  distances := [("A", "B", 4.0), ("B", "CONNECTORBLOCK", 4.0)]
  labelWidths := .ofList [("CONNECTORBLOCK", 1)]
  connectionSets := []

/-- The layout of `tight`. -/
def tightLayout : Layout :=
  .ofTerminals [⟨"A", 1, 0⟩, ⟨"B", 1, 4⟩, ⟨"CONNECTORBLOCK", 1, 8⟩]
    (by decide) (by decide) (by decide) (by decide)

/-- Three columns more are three blanks more, but none in the empty line. -/
theorem draw_shiftCenter_tight :
    ∃ shifted, (tight.shiftCenter 3).layout = .ok shifted ∧
      tightLayout.draw [⟨"A", "B", false⟩, ⟨"CONNECTORBLOCK", "A", true⟩] =
        .ok ["A---B   CONNECTORB", "|       |", "|---R---|", ""] ∧
      shifted.draw [⟨"A", "B", false⟩, ⟨"CONNECTORBLOCK", "A", true⟩] =
        .ok ["   A---B   CONNECTORB", "   |       |", "   |---R---|", ""] := by
  have hlayout : tight.layout = .ok tightLayout := rfl
  have hwires : List.Forall₂ tightLayout.Joins [⟨"A", "B", false⟩, ⟨"CONNECTORBLOCK", "A", true⟩]
      [⟨0, 4, true, false⟩, ⟨0, 8, false, true⟩] :=
    .cons ⟨0, 1, _, _, rfl, rfl, rfl, rfl, by decide, rfl, rfl, rfl, rfl⟩
      (.cons ⟨2, 0, _, _, rfl, rfl, rfl, rfl, by decide, rfl, rfl, rfl, rfl⟩ .nil)
  obtain ⟨shifted, hshifted, -, hdraw⟩ :=
    draw_shiftCenter (k := 3) hlayout (by decide) (by decide) (by decide)
  obtain ⟨lines, hlines, -, hindented⟩ := hdraw _ _ hwires
  have hpicture : tightLayout.draw [⟨"A", "B", false⟩, ⟨"CONNECTORBLOCK", "A", true⟩] =
      .ok ["A---B   CONNECTORB", "|       |", "|---R---|", ""] := by
    rw [Layout.draw_eq_ok hwires, Layout.canvas, Canvas.lines_paint_blank]
    exact congrArg Except.ok (by decide)
  rw [hpicture] at hlines
  cases hlines
  exact ⟨shifted, hshifted, hpicture, hindented⟩

end LayoutFile

end Piste
