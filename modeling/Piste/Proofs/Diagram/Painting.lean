import Mathlib.Data.List.Basic
import Piste.Diagram.Draw
import Piste.Proofs.LastAnswer
import Piste.Proofs.Text.Blank

/-!
# What a painted canvas shows

A cell shows the last stroke made on it, or a blank. `Canvas.get?_paint` is this law for any list of
strokes, those beside the canvas included, and `Canvas.lines_paint_blank` reads the four lines off
it. The last group of lemmas is about strokes side by side: at most one of them meets a given cell.
-/

namespace Piste.Diagram

/-! ## Cells -/

/-- The glyph that a stroke leaves in a cell. -/
def Stroke.glyphAt? (row : Nat) (column : Int) (stroke : Stroke) : Option Char :=
  if stroke.row = row ∧ stroke.column = column then some stroke.glyph else none

namespace Canvas

@[simp]
theorem width_blank (width : Nat) : (blank width).width = width := rfl

@[simp]
theorem width_put (canvas : Canvas) (stroke : Stroke) :
    (canvas.put stroke).width = canvas.width := by
  unfold put
  split <;> rfl

@[simp]
theorem width_paint (canvas : Canvas) (strokes : List Stroke) :
    (canvas.paint strokes).width = canvas.width := by
  induction strokes generalizing canvas with
  | nil => rfl
  | cons stroke strokes ih => rw [paint, List.foldl_cons, ← paint, ih, width_put]

theorem get?_mk {width : Nat} (rows : Vector (Vector Char width) rowCount) (row column : Nat) :
    (Canvas.mk width rows).get? row column = rows[row]?.bind fun cells => cells[column]? := rfl

theorem get?_blank {width row column : Nat} (hrow : row < rowCount) (hcolumn : column < width) :
    (blank width).get? row column = some ' ' := by
  rw [blank, get?_mk]
  simp [hrow, hcolumn]

/-- A stroke changes the cell that it meets and no other. -/
theorem get?_put {canvas : Canvas} {stroke : Stroke} {row column : Nat} (hrow : row < rowCount)
    (hcolumn : column < canvas.width) :
    (canvas.put stroke).get? row column =
      (stroke.glyphAt? row column).or (canvas.get? row column) := by
  obtain ⟨width, rows⟩ := canvas
  obtain ⟨strokeRow, strokeColumn, glyph⟩ := stroke
  simp only at hcolumn
  by_cases hsign : 0 ≤ strokeColumn
  · obtain ⟨n, rfl⟩ := Int.eq_ofNat_of_zero_le hsign
    simp only [put, hsign, if_true, get?_mk, Vector.getElem?_mk, Array.getElem?_modify,
      Vector.getElem?_toArray, Stroke.glyphAt?, Int.toNat_natCast, Int.natCast_inj]
    by_cases hr : strokeRow = row
    · by_cases hc : n = column
      · simp [hr, hc, hrow, hcolumn]
      · simp [hr, hc, hrow]
    · simp [hr]
  · have hne : ¬(strokeRow = row ∧ strokeColumn = (column : Int)) := by
      rintro ⟨-, rfl⟩
      exact hsign (Int.natCast_nonneg column)
    rw [put, if_neg hsign, Stroke.glyphAt?, if_neg hne, Option.none_or]

/-- A cell shows the last stroke made on it, or what it showed before. -/
theorem get?_paint {canvas : Canvas} {strokes : List Stroke} {row column : Nat}
    (hrow : row < rowCount) (hcolumn : column < canvas.width) :
    (canvas.paint strokes).get? row column =
      (strokes.findSomeRev? (Stroke.glyphAt? row column)).or (canvas.get? row column) := by
  induction strokes generalizing canvas with
  | nil => rfl
  | cons stroke strokes ih =>
    have hwidth : column < (canvas.put stroke).width := by rwa [width_put]
    rw [paint, List.foldl_cons, ← paint, ih hwidth, get?_put hrow hcolumn, findSomeRev?_cons,
      Option.or_assoc]

end Canvas

/-! ## Lines -/

/-- The text of a row of cells, without the blanks at its end. -/
def rowText (width : Nat) (cell : Nat → Char) : String :=
  String.ofList (Text.trimEnd ((List.range width).map cell))

namespace Canvas

theorem lines_eq_map_range (canvas : Canvas) :
    canvas.lines = (List.range rowCount).map fun row =>
      rowText canvas.width fun column => (canvas.get? row column).getD ' ' := by
  refine List.ext_getElem? fun row => ?_
  by_cases hrow : row < rowCount
  · have hcells : (canvas.rows[row]).toList = (List.range canvas.width).map fun column =>
        (canvas.get? row column).getD ' ' := by
      refine List.ext_getElem (by simp) fun column hcolumn _ => ?_
      have hwidth : column < canvas.width := by simpa using hcolumn
      simp [get?, hrow, hwidth]
    simp [lines, rowText, hrow, hcells]
  · simp [lines, hrow]

theorem length_lines (canvas : Canvas) : canvas.lines.length = rowCount := by
  rw [lines_eq_map_range, List.length_map, List.length_range]

/-- The lines of what is painted on a blank canvas, cell by cell. -/
theorem lines_paint_blank (width : Nat) (strokes : List Stroke) :
    ((blank width).paint strokes).lines = (List.range rowCount).map fun row =>
      rowText width fun column => (strokes.findSomeRev? (Stroke.glyphAt? row column)).getD ' ' := by
  rw [lines_eq_map_range, width_paint, width_blank]
  refine List.map_congr_left fun row hrow => ?_
  rw [List.mem_range] at hrow
  rw [rowText, rowText]
  congr 2
  refine List.map_congr_left fun column hcolumn => ?_
  rw [List.mem_range] at hcolumn
  rw [get?_paint hrow (by rwa [width_blank]), get?_blank hrow hcolumn]
  cases strokes.findSomeRev? (Stroke.glyphAt? row column) <;> rfl

end Canvas

/-- The character of a line in a column. Right of its end a line is blank. -/
def cellAt (line : String) (column : Nat) : Char :=
  line.toList[column]?.getD ' '

/-- Trimming a row does not change what is seen, if its cells know no blank but the space. -/
theorem cellAt_rowText {width : Nat} {cell : Nat → Char}
    (hblank : ∀ column, Text.isBlank (cell column) = true → cell column = ' ')
    (houtside : ∀ column, width ≤ column → cell column = ' ') (column : Nat) :
    cellAt (rowText width cell) column = cell column := by
  obtain ⟨blanks, hsplit, hblanks⟩ := Text.exists_trimEnd_append ((List.range width).map cell)
  rw [cellAt, rowText, String.toList_ofList]
  generalize Text.trimEnd ((List.range width).map cell) = kept at hsplit
  rcases Nat.lt_or_ge column width with hcolumn | hcolumn
  · have hcell : ((List.range width).map cell)[column]? = some (cell column) := by
      rw [List.getElem?_map, List.getElem?_range hcolumn, Option.map_some]
    rw [hsplit] at hcell
    rcases Nat.lt_or_ge column kept.length with hkept | hkept
    · rw [List.getElem?_append_left hkept] at hcell
      rw [hcell, Option.getD_some]
    · rw [List.getElem?_append_right hkept] at hcell
      rw [List.getElem?_eq_none hkept, Option.getD_none]
      exact (hblank column (hblanks _ (List.mem_of_getElem? hcell))).symm
  · have hkept : kept.length ≤ column := by
      have := congrArg List.length hsplit
      rw [List.length_map, List.length_range, List.length_append] at this
      omega
    rw [List.getElem?_eq_none hkept, Option.getD_none, houtside column hcolumn]

/-- A row of text has no blank at its end. -/
theorem getLast?_rowText (width : Nat) (cell : Nat → Char) :
    (rowText width cell).toList.getLast? ≠ some ' ' := by
  intro hlast
  rw [rowText, String.toList_ofList] at hlast
  exact absurd (Text.isBlank_getLast_trimEnd hlast) (by decide)

theorem rowText_blank (width : Nat) : rowText width (fun _ => ' ') = "" := by
  have hnil : Text.trimEnd ((List.range width).map fun _ => ' ') = [] := by
    rw [Text.trimEnd_eq_nil_iff]
    intro c hc
    obtain ⟨-, -, rfl⟩ := List.mem_map.1 hc
    decide
  rw [rowText, hnil]

/-! ## Strokes side by side -/

/-- Of characters side by side one meets a column, the one counted from the first column. -/
theorem findSomeRev?_strokesFrom (row strokeRow : Nat) (column first : Int) (cs : List Char) :
    (strokesFrom strokeRow first cs).findSomeRev? (Stroke.glyphAt? row column) =
      if strokeRow = row ∧ first ≤ column then cs[(column - first).toNat]? else none := by
  induction cs generalizing first with
  | nil => simp [strokesFrom]
  | cons c cs ih =>
    rw [strokesFrom, findSomeRev?_cons, ih]
    by_cases hrow : strokeRow = row
    · by_cases hlt : first < column
      · have hindex : (column - first).toNat = (column - (first + 1)).toNat + 1 := by omega
        rw [if_pos ⟨hrow, by omega⟩, if_pos ⟨hrow, by omega⟩, hindex, List.getElem?_cons_succ,
          Stroke.glyphAt?, if_neg (by simp only; omega), Option.or_none]
      · rw [if_neg (by omega), Option.none_or, Stroke.glyphAt?]
        by_cases heq : first = column
        · subst heq
          simp [hrow]
        · rw [if_neg (by simp only; omega), if_neg (by omega)]
    · rw [if_neg (by tauto), if_neg (by tauto), Option.none_or, Stroke.glyphAt?, if_neg (by tauto)]

/-- Strokes that are kept by their column are kept or dropped for a cell as a whole. -/
theorem findSomeRev?_filter_column (keep : Int → Bool) (row : Nat) (column : Int)
    (strokes : List Stroke) :
    (strokes.filter fun stroke => keep stroke.column).findSomeRev? (Stroke.glyphAt? row column) =
      if keep column then strokes.findSomeRev? (Stroke.glyphAt? row column) else none := by
  rw [findSomeRev?_filter]
  have hcell : ∀ stroke : Stroke,
      (if keep stroke.column then stroke.glyphAt? row column else none) =
        if keep column then stroke.glyphAt? row column else none := by
    intro stroke
    by_cases hmeets : stroke.row = row ∧ stroke.column = column
    · rw [hmeets.2]
    · rw [Stroke.glyphAt?, if_neg hmeets]
      split <;> split <;> rfl
  simp only [hcell]
  by_cases hkeep : keep column = true
  · simp only [hkeep, if_true]
  · simp only [hkeep, if_false, Bool.false_eq_true]
    exact findSomeRev?_eq_none _ fun _ _ => rfl

end Piste.Diagram
