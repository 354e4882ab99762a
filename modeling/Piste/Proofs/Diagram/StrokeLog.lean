import Piste.Proofs.Diagram.Clipping

/-!
# What a canvas keeps of its strokes

A canvas is known by its width and by the log of the strokes made on it, wherever they lie. It stays
as wide and as high as it was made (`Canvas.map_length_rows`), a cell shows the last stroke made on
it or a blank (`Canvas.get?_paint_blank_eq_some_iff`), and the strokes off the canvas might as well
not have been made (`Canvas.paint_filter_within`). A line is its row up to the last character that
is no blank (`Canvas.exists_line`); though a canvas is made of spaces, blanks of any kind are cut
off.

`Canvas.Keeps` says all of this of a canvas and a log.
-/

namespace Piste.Diagram

/-! ## The log of a cell -/

/-- Whether a stroke is made on a cell. -/
def Stroke.Meets (stroke : Stroke) (row column : Nat) : Prop :=
  stroke.row = row ∧ stroke.column = column

instance (stroke : Stroke) (row column : Nat) : Decidable (stroke.Meets row column) :=
  inferInstanceAs (Decidable (_ ∧ _))

/-- No stroke is made on the cell. -/
def Untouched (strokes : List Stroke) (row column : Nat) : Prop :=
  ∀ stroke ∈ strokes, ¬stroke.Meets row column

instance (strokes : List Stroke) (row column : Nat) : Decidable (Untouched strokes row column) :=
  inferInstanceAs (Decidable (∀ stroke ∈ strokes, ¬stroke.Meets row column))

/-- `glyph` is written to the cell, and nothing after it. -/
def LastWritten (strokes : List Stroke) (row column : Nat) (glyph : Char) : Prop :=
  ∃ before after, strokes = before ++ ⟨row, column, glyph⟩ :: after ∧ Untouched after row column

section Cells

variable {strokes : List Stroke} {row column : Nat} {glyph : Char}

theorem findSomeRev?_glyphAt?_eq_some_iff :
    strokes.findSomeRev? (Stroke.glyphAt? row column) = some glyph ↔
      LastWritten strokes row column glyph := by
  unfold Stroke.glyphAt?
  rw [findSomeRev?_ite_eq_some_iff]
  constructor
  · rintro ⟨before, stroke, after, hstrokes, ⟨rfl, hcolumn⟩, rfl, hafter⟩
    refine ⟨before, after, ?_, hafter⟩
    rw [hstrokes, ← hcolumn]
  · rintro ⟨before, after, hstrokes, hafter⟩
    exact ⟨before, ⟨row, column, glyph⟩, after, hstrokes, ⟨rfl, rfl⟩, rfl, hafter⟩

theorem findSomeRev?_glyphAt?_eq_none_iff :
    strokes.findSomeRev? (Stroke.glyphAt? row column) = none ↔ Untouched strokes row column := by
  unfold Stroke.glyphAt?
  rw [findSomeRev?_ite_eq_none_iff]
  rfl

end Cells

namespace Canvas

/-! ## Cells -/

variable {row column : Nat}

/-- Four rows, each as wide as the canvas. -/
theorem map_length_rows (canvas : Canvas) :
    canvas.rows.toList.map (fun cells => cells.toList.length) =
      List.replicate rowCount canvas.width := by
  apply List.eq_replicate_iff.2
  constructor
  · rw [List.length_map, Vector.length_toList]
  · intro n hn
    obtain ⟨cells, -, rfl⟩ := List.mem_map.1 hn
    exact Vector.length_toList

theorem get?_eq_none_iff {canvas : Canvas} :
    canvas.get? row column = none ↔ rowCount ≤ row ∨ canvas.width ≤ column := by
  obtain ⟨width, rows⟩ := canvas
  rw [get?_mk]
  by_cases hrow : row < rowCount
  · have hlt : ¬rowCount ≤ row := Nat.not_le.2 hrow
    simp [hrow, hlt]
  · have hle : rowCount ≤ row := Nat.le_of_not_lt hrow
    simp [hle]

/-- A cell of the canvas shows the last stroke made on it, or a blank. -/
theorem get?_paint_blank_eq_some_iff {width : Nat} {strokes : List Stroke} {glyph : Char}
    (hrow : row < rowCount) (hcolumn : column < width) :
    ((blank width).paint strokes).get? row column = some glyph ↔
      LastWritten strokes row column glyph ∨ Untouched strokes row column ∧ glyph = ' ' := by
  rw [get?_paint hrow (by rwa [width_blank]), get?_blank hrow hcolumn, Option.or_eq_some_iff,
    findSomeRev?_glyphAt?_eq_some_iff, findSomeRev?_glyphAt?_eq_none_iff, Option.some_inj,
    eq_comm (a := ' ')]

/-- What is painted does not depend on the strokes off the canvas. -/
theorem paint_filter_within (canvas : Canvas) (strokes : List Stroke) :
    canvas.paint (strokes.filter fun stroke => stroke.Within canvas.width) =
      canvas.paint strokes := by
  induction strokes generalizing canvas with
  | nil => rfl
  | cons stroke strokes ih =>
    have hrest : canvas.paint (stroke :: strokes) = (canvas.put stroke).paint strokes := rfl
    by_cases hwithin : stroke.Within canvas.width
    · have hkept := ih (canvas.put stroke)
      rw [width_put] at hkept
      rw [List.filter_cons_of_pos (by simpa using hwithin), hrest, ← hkept]
      rfl
    · rw [List.filter_cons_of_neg (by simpa using hwithin), hrest, put_of_not_within hwithin, ih]

/-! ## Lines -/

/-- A line is its row up to the last character that is no blank. -/
theorem exists_line (canvas : Canvas) (hrow : row < rowCount) :
    ∃ line blanks : List Char, canvas.lines[row]? = some (String.ofList line) ∧
      (∀ column, canvas.get? row column = (line ++ blanks)[column]?) ∧
      (∀ c ∈ line.getLast?, Text.isBlank c = false) ∧
      ∀ c ∈ blanks, Text.isBlank c = true := by
  obtain ⟨blanks, hsplit, hblanks⟩ := Text.exists_trimEnd_append (canvas.rows[row]).toList
  refine ⟨Text.trimEnd (canvas.rows[row]).toList, blanks, ?_, ?_, ?_, hblanks⟩
  · simp [lines, hrow]
  · intro column
    rw [← hsplit, get?]
    simp [hrow]
  · intro c hc
    exact Text.isBlank_getLast_trimEnd hc

/-- All that a canvas of some width keeps of strokes. -/
structure Keeps (canvas : Canvas) (width : Nat) (strokes : List Stroke) : Prop where
  width_eq : canvas.width = width
  rows : canvas.rows.toList.map (fun cells => cells.toList.length) = [width, width, width, width]
  outside : ∀ row column, canvas.get? row column = none ↔ 4 ≤ row ∨ width ≤ column
  shown : ∀ row column glyph, row < 4 → column < width →
    (canvas.get? row column = some glyph ↔
      LastWritten strokes row column glyph ∨ Untouched strokes row column ∧ glyph = ' ')
  stray : ∀ stroke : Stroke, ¬stroke.Within width → canvas.put stroke = canvas
  strays : (blank width).paint (strokes.filter fun stroke => stroke.Within width) = canvas
  lines_length : canvas.lines.length = 4
  lines : ∀ row, row < 4 → ∃ line blanks : List Char,
    canvas.lines[row]? = some (String.ofList line) ∧
      (∀ column, canvas.get? row column = (line ++ blanks)[column]?) ∧
      (∀ c ∈ line.getLast?, Text.isBlank c = false) ∧ ∀ c ∈ blanks, Text.isBlank c = true

/-- Whatever strokes are made on a blank canvas, it keeps of each cell the last one that meets it
and nothing of the others. -/
theorem keeps_of_paint (width : Nat) (strokes : List Stroke) :
    ((blank width).paint strokes).Keeps width strokes := by
  have hwidth : ((blank width).paint strokes).width = width := by
    rw [width_paint, width_blank]
  refine ⟨hwidth, ?_, ?_, ?_, ?_, ?_, length_lines _, ?_⟩
  · rw [map_length_rows, hwidth]
    rfl
  · intro row column
    rw [get?_eq_none_iff, hwidth]
    rfl
  · intro row column glyph hrow hcolumn
    exact get?_paint_blank_eq_some_iff hrow hcolumn
  · intro stroke hstray
    exact put_of_not_within (by rwa [hwidth])
  · exact paint_filter_within (blank width) strokes
  · intro row hrow
    exact exists_line _ hrow

/-- Strokes on a canvas of three columns and beside it. One cell is written twice, and one with a
blank that is no space. -/
def scribbles : List Stroke :=
  [⟨0, 0, 'a'⟩, ⟨0, 2, 'y'⟩, ⟨0, 3, 'x'⟩, ⟨0, -1, 'x'⟩, ⟨4, 0, 'x'⟩, ⟨0, 0, 'b'⟩, ⟨1, 1, '\u3000'⟩]

/-- The later of two strokes on a cell is seen, and the wide blank is cut off with the spaces around
it. -/
theorem keeps_of_scribbles :
    ((blank 3).paint scribbles).get? 0 0 = some 'b' ∧
      ((blank 3).paint scribbles).get? 0 1 = some ' ' ∧
      ((blank 3).paint scribbles).get? 4 0 = none ∧
      ((blank 3).paint scribbles).put ⟨0, -1, 'x'⟩ = (blank 3).paint scribbles ∧
      ((blank 3).paint scribbles).get? 1 1 = some '\u3000' ∧
      ((blank 3).paint scribbles).lines = ["b y", "", "", ""] := by
  have hkeeps := keeps_of_paint 3 scribbles
  have hlast : LastWritten scribbles 0 0 'b' := ⟨[_, _, _, _, _], [_], rfl, by decide⟩
  have hwide : LastWritten scribbles 1 1 '\u3000' := ⟨[_, _, _, _, _, _], [], rfl, by decide⟩
  refine ⟨?_, ?_, ?_, ?_, ?_, by decide⟩
  · exact (hkeeps.shown 0 0 'b' (by decide) (by decide)).2 (Or.inl hlast)
  · exact (hkeeps.shown 0 1 ' ' (by decide) (by decide)).2 (Or.inr ⟨by decide, rfl⟩)
  · exact (hkeeps.outside 4 0).2 (Or.inl (by decide))
  · exact hkeeps.stray _ (by decide)
  · exact (hkeeps.shown 1 1 '\u3000' (by decide) (by decide)).2 (Or.inl hwide)

end Canvas

end Piste.Diagram
